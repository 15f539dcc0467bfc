import EventTracker.Proofs.Tracker.Ids

/-!
# Trackers that share their surroundings

A host opens trackers, one after another, and asks now this one and now that. They share
the source of ids and the event loop. However the storage and the files come to be what
they are, no id is used twice.
-/

namespace EventTracker

/-- What the host of trackers does: it opens one, turns to one, or asks the current one. -/
inductive HostAction where
  | opens (token : Value) (config : Config) (environment : Option Environment)
    (connection : Connection) (shared : Bool)
  | turns (place : Nat)
  | asks (step : ClientStep)

/-- An action of the host, and what becomes of the disk before it: the storage may be another
tracker's, and others may have changed what is there. -/
structure HostStep where
  disturb : Disk → Disk
  action : HostAction

namespace HostAction

/-- Whether the mappings that go into bags and into events are under texts. -/
def TextKeyed : HostAction → Prop
  | .asks ⟨_, .act action⟩ => action.TextKeyed
  | _ => True

end HostAction

/-- The bag that a tracker finds stored under its name, or an empty one. -/
def Disk.bagFor (d : Disk) (token : Text) (config : Config) (shared : Bool) : Mapping :=
  ((d.foundBy token config shared).toOption.bind Store.storedBag?).getD []

namespace World

/-- The world with another tracker as the current one. Those after it move up, and the tasks of each
tracker remain its own. -/
def turnTo (w : World) (place : Nat) : World :=
  match w.trackers[place]? with
  | none => w
  | some t =>
    let moved (owner : Nat) : Nat :=
      if owner = place then w.currentPlace else if place < owner then owner - 1 else owner
    { w with
      trackers := w.trackers.eraseIdx place ++ [t]
      queue := w.queue.map fun task => { task with owner := moved task.owner } }

/-- The world after a step of the host. -/
def host (w : World) (step : HostStep) : World :=
  let disturbed : World := w.onDisk (step.disturb w.toDisk)
  match step.action with
  | .opens token config environment connection shared =>
    (disturbed.openTracker token config environment connection shared).1
  | .turns place => disturbed.turnTo place
  | .asks step => (disturbed.handle step).1

/-- The world after some steps of the host. -/
def hosted (w : World) (steps : List HostStep) : World := steps.foldl host w

/-- The device id that opening a tracker issues: its own, unless it takes over an identity that is
stored under its name. -/
def issuedByOpening (w : World) (token : Value) (config : Config)
    (environment : Option Environment) (connection : Connection) (shared : Bool) :
    List (Option Value) :=
  match token, w.openTracker token config environment connection shared with
  | .str text, (opened, .ok ()) =>
    if Store.Named (w.bagFor text config shared) then [] else [opened.deviceId?]
  | _, _ => []

/-- The device id that a step of the host issues: that of a tracker that starts, or starts over. -/
def issuedBy (w : World) (step : HostStep) : List (Option Value) :=
  let disturbed : World := w.onDisk (step.disturb w.toDisk)
  match step.action with
  | .opens token config environment connection shared =>
    disturbed.issuedByOpening token config environment connection shared
  | .asks ⟨_, .act .reset⟩ => if w.trackers = [] then [] else [(w.host step).deviceId?]
  | _ => []

/-- The device ids that some steps issue, from the first to the last. -/
def deviceIds (w : World) : List HostStep → List (Option Value)
  | [] => []
  | step :: rest => w.issuedBy step ++ (w.host step).deviceIds rest

theorem hosted_cons (w : World) (step : HostStep) (rest : List HostStep) :
    w.hosted (step :: rest) = (w.host step).hosted rest := rfl

namespace Draws

variable {numbers : Nat → Nat} {first : Nat} {devices : List Nat} {w : World}

theorem turnTo (draws : w.Draws numbers first devices) (place : Nat) :
    (w.turnTo place).Draws numbers first devices := by
  unfold World.turnTo
  split
  case h_1 => exact draws
  case h_2 t found =>
    refine draws.retracked ?_ ?_ rfl
    · refine List.forall_mem_append.2 ⟨fun other mem => ?_, ?_⟩
      · exact draws.keyed other (List.mem_of_mem_eraseIdx mem)
      · exact List.forall_mem_singleton.2 (draws.keyed t (List.mem_of_getElem? found))
    · rw [World.insertIds, World.insertIds, World.requests, World.requests, List.map_map]
      rfl

/-- Opening a tracker issues what it gives a number to. -/
theorem exists_openTracker (draws : w.Draws numbers first devices) (token : Value) (config : Config)
    (environment : Option Environment) (connection : Connection) (shared : Bool) :
    ∃ more, (w.openTracker token config environment connection shared).1.Draws numbers first
        (devices ++ more) ∧
      w.issuedByOpening token config environment connection shared =
        more.map fun place => some (.str (dashedId (numbers place))) := by
  unfold issuedByOpening
  obtain ⟨fault, failed⟩ | ⟨text, disk, rfl, -, used, joined⟩ :=
    w.openTracker_cases token config environment connection shared
  · rw [failed]
    refine ⟨[], (List.append_nil devices).symm ▸ draws.connectedBy connection, ?_⟩
    cases token <;> rfl
  · rw [joined]
    generalize opening : Store.openNew { w.toDesk with toDisk := disk } _ config.debug.truthy = s
    have keyed : s.props.TextKeyed := opening ▸ Store.keyed_openNew _ _ _
    have ids : s.ids = w.ids := opening ▸ Store.load_ids _
    have bag : w.bagFor text config shared = s.props := by
      rw [← opening, Store.openNew_props, Disk.bagFor, Disk.foundBy, used]
      rfl
    simp only [bag]
    by_cases named : Store.Named s.props
    · refine ⟨[], ?_, if_pos named⟩
      rw [List.append_nil]
      exact draws.joined_named text config environment connection keyed ids named
    · obtain ⟨drawn, device⟩ := draws.joined_anew text config environment connection keyed ids named
      refine ⟨[w.ids.issued], drawn, ?_⟩
      rw [if_neg named, device]
      rfl

/-- Starting over issues what it gives a number to. -/
theorem exists_reset (draws : w.Draws numbers first devices) (looping : Bool) :
    let started := (w.handle ⟨looping, .act .reset⟩).1
    ∃ more, started.Draws numbers first (devices ++ more) ∧
      (if w.trackers = [] then [] else [started.deviceId?]) =
        more.map fun place => some (.str (dashedId (numbers place))) := by
  have during : (w.during ⟨looping, .act .reset⟩).Draws numbers first devices :=
    draws.retracked draws.keyed rfl rfl
  unfold World.handle
  split
  case h_1 t current =>
    obtain ⟨drawn, device⟩ := during.reset current
    refine ⟨[w.ids.issued], drawn, ?_⟩
    have present : w.trackers ≠ [] := by
      intro none
      rw [World.current?, World.during, none] at current
      cases current
    rw [if_neg present]
    exact congrArg ([·]) device
  case h_2 none =>
    refine ⟨[], (List.append_nil devices).symm ▸ during, if_pos ?_⟩
    exact List.getLast?_eq_none_iff.1 none

/-- A step of the host issues what it gives a number to. -/
theorem exists_host (draws : w.Draws numbers first devices) {step : HostStep}
    (keyed : step.action.TextKeyed) :
    ∃ more, (w.host step).Draws numbers first (devices ++ more) ∧
      w.issuedBy step = more.map fun place => some (.str (dashedId (numbers place))) := by
  obtain ⟨disturb, action⟩ := step
  have disturbed : (w.onDisk (disturb w.toDisk)).Draws numbers first devices :=
    draws.retracked draws.keyed rfl rfl
  cases action with
  | opens token config environment connection shared =>
    exact disturbed.exists_openTracker token config environment connection shared
  | turns place => exact ⟨[], (List.append_nil devices).symm ▸ disturbed.turnTo place, rfl⟩
  | asks step =>
    obtain ⟨looping, action⟩ := step
    have going (goes : action ≠ .act .reset) :
        (w.host ⟨disturb, .asks ⟨looping, action⟩⟩).Draws numbers first (devices ++ []) := by
      rw [List.append_nil]
      refine disturbed.handle ?_ goes
      rintro _ rfl
      exact keyed
    cases action with
    | act action =>
      cases action with
      | reset => exact disturbed.exists_reset looping
      | _ => exact ⟨[], going nofun, rfl⟩
    | _ => exact ⟨[], going nofun, rfl⟩

end Draws

/-- What steps of the host issue is what they give numbers to. -/
theorem Draws.exists_hosted {numbers : Nat → Nat} {first : Nat} {devices : List Nat} {w : World}
    (draws : w.Draws numbers first devices) {steps : List HostStep}
    (keyed : ∀ step ∈ steps, step.action.TextKeyed) :
    ∃ more, (w.hosted steps).Draws numbers first (devices ++ more) ∧
      w.deviceIds steps = more.map fun place => some (.str (dashedId (numbers place))) := by
  induction steps generalizing w devices with
  | nil => exact ⟨[], (List.append_nil devices).symm ▸ draws, rfl⟩
  | cons step rest ih =>
    obtain ⟨firstKeyed, restKeyed⟩ := List.forall_mem_cons.1 keyed
    obtain ⟨here, taken, issued⟩ := draws.exists_host firstKeyed
    obtain ⟨later, all, issuedLater⟩ := ih taken restKeyed
    refine ⟨here ++ later, ?_, ?_⟩
    · rw [hosted_cons, ← List.append_assoc]
      exact all
    · rw [deviceIds, issued, issuedLater, List.map_append]

/-! ## No id twice -/

/-- Nothing has been drawn where nothing has been done. -/
theorem draws_start {w : World} (idle : w.trackers = []) (unsent : w.requests = [])
    (unscripted : w.ids.deviceIds = []) : w.Draws w.ids.numbers w.ids.issued [] where
  keyed := by
    rw [idle]
    exact List.forall_mem_nil _
  unscripted := unscripted
  source := rfl
  since := Nat.le_refl _
  events := by
    refine ⟨[], ?_, List.nodup_nil, List.forall_mem_nil _⟩
    rw [insertIds, unsent]
    rfl

/-- Whatever is done with trackers that draw their ids from one source, as long as the source does not
repeat an id, the events that are sent have insert ids that are all different. Each of them is 32
digits, which no truncation cuts. The device ids that are issued are all different, too, and even
without their dashes none of them is an insert id. -/
theorem ids_never_repeat {w : World} {steps : List HostStep} (idle : w.trackers = [])
    (unsent : w.requests = []) (unscripted : w.ids.deviceIds = [])
    (keyed : ∀ step ∈ steps, step.action.TextKeyed)
    (fresh : w.ids.NeverRepeats (w.hosted steps).ids.issued) :
    ∃ insertIds deviceIds : List String,
      (w.hosted steps).insertIds = insertIds.map (fun id => some (.str id)) ∧
      w.deviceIds steps = deviceIds.map (fun id => some (.str id)) ∧
      insertIds.Nodup ∧
      (∀ id ∈ insertIds, id.toList.length = 32 ∧ (∀ c ∈ id.toList, c ∈ idDigits) ∧
        truncate maxTextLength (.str id) = .str id) ∧
      deviceIds.Nodup ∧ ∀ id ∈ deviceIds, undashed id ∉ insertIds := by
  obtain ⟨devices, draws, issued⟩ := (draws_start idle unsent unscripted).exists_hosted keyed
  rw [List.nil_append] at draws
  obtain ⟨-, -, -, -, events, sent, nodup, bounds⟩ := draws
  obtain ⟨nodupEvents, nodupDevices, apart⟩ := List.nodup_append'.1 nodup
  have distinct : ∀ i ∈ events ++ devices, ∀ j ∈ events ++ devices,
      plainId (w.ids.numbers i) = plainId (w.ids.numbers j) → i = j := by
    intro i mem j mem' same
    exact fresh.eq_of_plainId_eq (bounds i mem) (bounds j mem') same
  refine ⟨events.map fun place => plainId (w.ids.numbers place),
    devices.map fun place => dashedId (w.ids.numbers place), ?_, ?_, ?_, ?_, ?_, ?_⟩
  · rw [sent, List.map_map]
    rfl
  · rw [issued, List.map_map]
    rfl
  · refine nodupEvents.map_on fun i mem j mem' => ?_
    exact distinct i (List.mem_append_left _ mem) j (List.mem_append_left _ mem')
  · refine List.forall_mem_map.2 fun place _ => ⟨length_plainId _, ?_, truncate_plainId _⟩
    exact fun c => mem_idDigits_of_mem_plainId
  · refine nodupDevices.map_on fun i mem j mem' same => ?_
    have bare := congrArg undashed same
    rw [undashed_dashedId, undashed_dashedId] at bare
    exact distinct i (List.mem_append_right _ mem) j (List.mem_append_right _ mem') bare
  · refine List.forall_mem_map.2 fun i mem used => ?_
    rw [undashed_dashedId] at used
    obtain ⟨j, mem', same⟩ := List.mem_map.1 used
    have same := distinct j (List.mem_append_left _ mem') i (List.mem_append_right _ mem) same
    exact apart mem' (same ▸ mem)

/-- Two trackers, of which one starts over. One event has properties that name another insert id and
another time, and a listener that tracks one more; one is no text, and one comes while no loop
runs. -/
theorem ids_never_repeat_two_trackers :
    let start := World.fresh ⟨.memory [] [] 0, ⟨[]⟩, []⟩ []
    let forged : Value := .map [(.str "$insert_id", .str "x"), (.str "time", .int 3)]
    let listener : Value := .callback ⟨"A", .track "echo", 0⟩
    let tracks (looping : Bool) (event properties callback : Value) : HostStep :=
      ⟨id, .asks ⟨looping, .act (.request (.track event properties callback))⟩⟩
    let steps : List HostStep :=
      [⟨id, .opens (.str "T") .standard none .direct true⟩, tracks true (.str "seen") forged listener,
        ⟨id, .asks ⟨true, .act .reset⟩⟩, ⟨id, .opens (.str "U") .standard none .direct true⟩,
        tracks true (.int 1) .null .null, tracks false (.str "lost") .null .null,
        tracks true (.str "left") .null .null, ⟨id, .turns 0⟩, ⟨id, .asks ⟨true, .act .flush⟩⟩]
    ∃ insertIds deviceIds : List String, insertIds.length = 3 ∧ deviceIds.length = 3 ∧
      (start.hosted steps).insertIds = insertIds.map (fun id => some (.str id)) ∧
      start.deviceIds steps = deviceIds.map (fun id => some (.str id)) ∧
      insertIds.Nodup ∧ deviceIds.Nodup ∧ ∀ id ∈ deviceIds, undashed id ∉ insertIds := by
  intro start forged listener tracks steps
  have keyed : ∀ step ∈ steps, step.action.TextKeyed := by
    simp only [steps, List.forall_mem_cons]
    exact ⟨trivial, rfl, trivial, trivial, trivial, trivial, trivial, trivial, trivial,
      List.forall_mem_nil _⟩
  have few : (start.hosted steps).ids.issued ≤ 0 + idCount := by decide +kernel
  have fresh : start.ids.NeverRepeats (start.hosted steps).ids.issued :=
    IdSource.neverRepeats_succ few
  obtain ⟨insertIds, deviceIds, sent, issued, nodup, -, nodup', apart⟩ :=
    ids_never_repeat rfl rfl rfl keyed fresh
  have events : (start.hosted steps).insertIds.length = 3 := by decide +kernel
  have devices : (start.deviceIds steps).length = 3 := by decide +kernel
  rw [sent, List.length_map] at events
  rw [issued, List.length_map] at devices
  exact ⟨insertIds, deviceIds, events, devices, sent, issued, nodup, nodup', apart⟩

end World

end EventTracker
