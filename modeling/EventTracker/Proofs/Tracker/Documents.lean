import EventTracker.Proofs.Json.Document
import EventTracker.Proofs.Tracker.Amounts
import EventTracker.Proofs.Tracker.Bags
import EventTracker.Proofs.Tracker.Clock
import EventTracker.Proofs.Tracker.Lasting
import EventTracker.Proofs.Wire.Finite
import EventTracker.Proofs.Wire.Payload

/-!
# Bodies that hold JSON documents

The text in a body is a JSON document exactly if its payload is finite. A payload gets its
numbers from what callers give, the bag, the host and the clock, and of these only the
amount of a charge is checked. `World.Writes` says of a world that all bodies in it are
made of payloads, and that those are finite where all sources are; every operation keeps
that.
-/

namespace EventTracker

/-! ## What numbers come from -/

/-- A tracker whose bag and host are finite. -/
structure Tracker.Finite (t : Tracker) : Prop where
  bag : t.props.Finite
  host : Environment.FiniteHost t.environment

/-- The properties that `set` and `setOnce` are given: by name with a value, or as a mapping. -/
def givenEntries (prop : Value) (value : Option Value) : Mapping :=
  match prop, value with
  | .map entries, _ => entries
  | prop, some v => [(prop, v)]
  | _, none => []

/-- The amounts that `increment` is given; without an amount, one. -/
def givenAmounts (prop amount : Value) : Mapping :=
  match prop, amount with
  | .map entries, _ => entries
  | prop, .null | prop, .callback _ => [(prop, .int 1)]
  | prop, v => [(prop, v)]

/-- Whether the numbers that a call is given are finite. The amount of a charge may be any. -/
def ClientCall.Finite : ClientCall → Prop
  | .track _ properties _ | .charge _ properties _ => properties.FiniteEntries
  | .set prop value _ | .setOnce prop value _ => (givenEntries prop value).Finite
  | .increment prop amount _ => ∀ entry ∈ givenAmounts prop amount, entry.2.FiniteAmount
  | .identify _ _ | .unset _ _ => True

def Action.Finite : Action → Prop
  | .request call => call.Finite
  | .register patch | .registerOnce patch => patch.FiniteEntries
  | _ => True

theorem Value.FiniteEntries.given {properties : Value} (finite : properties.FiniteEntries) :
    (givenProperties properties).FiniteEntries := by
  unfold givenProperties
  split
  · exact nofun
  · exact finite

theorem finiteEntries_identifyProperties (previous id : Text) :
    (World.identifyProperties previous (.str id)).FiniteEntries := by
  simp only [World.identifyProperties, Value.FiniteEntries, Mapping.Finite, List.forall_mem_cons]
  exact ⟨rfl, rfl, List.forall_mem_nil _⟩

theorem Action.Changes.finite {s : Store} {action : Action} {props : Mapping}
    (changes : action.Changes s props) (bag : s.props.Finite) (given : action.Finite) :
    Mapping.Finite props := by
  cases changes with
  | none => exact bag
  | merge asked own =>
    rcases asked with rfl | rfl <;>
      exact bag.overlay fun entry mem => given entry (own entry mem).1
  | remove own => exact fun entry mem => bag entry (Entries.mem_of_mem_erase mem)
  | identify nonempty =>
    refine bag.overlay ?_
    simp only [Mapping.Finite, List.forall_mem_cons]
    exact ⟨rfl, rfl, List.forall_mem_nil _⟩
  | reset =>
    refine Mapping.Finite.overlay (List.forall_mem_nil _) ?_
    simp only [Mapping.Finite, List.forall_mem_cons]
    exact ⟨rfl, rfl, List.forall_mem_nil _⟩

theorem finite_of_transaction {properties : Value} {amount : Number} {entries : Mapping}
    (given : properties.FiniteEntries) (finite : amount.value.finite = true)
    (made : World.transaction properties amount = .ok entries) : Mapping.Finite entries := by
  refine forall_of_transaction (Q := fun v => v.finite = true) made (fun table taken => ?_) finite
    fun _ => rfl
  split at taken
  · exact Mapping.finite_ofValue given taken
  · cases taken
    exact List.forall_mem_nil _

/-! ## Worlds whose bodies are made of payloads -/

/-- A body is an earlier one, or made of a payload that is finite if so much is known. -/
def MadeOf (earlier : List String) (known : Prop) (body : String) : Prop :=
  body ∈ earlier ∨ ∃ payload, encodeBody payload = .ok body ∧ (known → payload.finite = true)

theorem MadeOf.imp {earlier : List String} {known known' : Prop} {body : String}
    (made : MadeOf earlier known body) (less : known' → known) : MadeOf earlier known' body := by
  obtain old | ⟨payload, encoded, finite⟩ := made
  · exact .inl old
  · exact .inr ⟨payload, encoded, fun known => finite (less known)⟩

/-- All bodies are made of payloads. These are finite where it is given that the sources of their
numbers are and the clock has shown no other numbers so far. -/
structure World.Writes (earlier : List String) (given : Prop) (w : World) : Prop where
  trackers : given → ∀ t ∈ w.trackers, t.Finite
  queue : ∀ task ∈ w.queue, MadeOf earlier (given ∧ w.clock.FiniteSoFar) task.body
  posts : ∀ post ∈ w.posts, MadeOf earlier (given ∧ w.clock.FiniteSoFar) post.body

namespace World.Writes

variable {earlier : List String} {given : Prop} {w w' : World} {t : Tracker}

/-- Time goes on, trackers change, and nothing is requested or posted. -/
theorem onward (writes : w.Writes earlier given)
    (clock : w'.clock.FiniteSoFar → w.clock.FiniteSoFar)
    (trackers : given → ∀ t ∈ w'.trackers, t.Finite) (queue : w'.queue = w.queue)
    (posts : w'.posts = w.posts) : w'.Writes earlier given where
  trackers := trackers
  queue task mem := (writes.queue task (queue ▸ mem)).imp fun known => ⟨known.1, clock known.2⟩
  posts post mem := (writes.posts post (posts ▸ mem)).imp fun known => ⟨known.1, clock known.2⟩

theorem setTracker (writes : w.Writes earlier given) (own : given → t.Finite) (place : Nat) :
    (w.setTracker place t).Writes earlier given :=
  writes.onward id (fun known => World.forall_mem_set (writes.trackers known) (own known) place) rfl
    rfl

theorem withStore (writes : w.Writes earlier given) {s : Store}
    (own : given → Tracker.Finite { t with props := s.props })
    (clock : s.clock.FiniteSoFar → w.clock.FiniteSoFar) :
    (w.withStore t s).Writes earlier given :=
  writes.onward clock (fun known => World.forall_mem_set (writes.trackers known) (own known) _) rfl
    rfl

/-! ### Requests and callbacks -/

theorem submit (writes : w.Writes earlier given) {payload : Value}
    (finite : given → w.clock.FiniteSoFar → payload.finite = true) (t : Tracker)
    (endpoint : Endpoint) (callback : Value) :
    (w.submit t endpoint payload callback).1.Writes earlier given := by
  unfold World.submit
  split
  case h_1 => exact writes
  case h_2 cut copied =>
    have same : cut = truncate maxTextLength payload := by
      unfold truncated at copied
      split at copied <;> cases copied
      rfl
    simp only
    split
    case h_1 => exact ⟨writes.trackers, writes.queue, writes.posts⟩
    case h_2 body encoded =>
      split
      case isTrue =>
        refine ⟨writes.trackers, fun task mem => ?_, writes.posts⟩
        obtain before | made := List.mem_append.1 mem
        · exact writes.queue task before
        · rw [List.mem_singleton.1 made]
          refine .inr ⟨cut, encoded, fun known => ?_⟩
          rw [same, Value.finite_truncate]
          exact finite known.1 known.2
      case isFalse => exact ⟨writes.trackers, writes.queue, writes.posts⟩

theorem attemptTrack (writes : w.Writes earlier given) (own : given → t.Finite)
    {properties : Value} (finite : given → properties.FiniteEntries) (event callback : Value) :
    (w.attemptTrack t event properties callback).1.Writes earlier given := by
  obtain ⟨bag, -⟩ := (w.store t).compose_cases t.token t.environment event properties
  have clock : ((w.store t).compose t.token t.environment event properties).1.clock.FiniteSoFar →
      w.clock.FiniteSoFar := Store.finiteSoFar_of_compose
  unfold World.attemptTrack
  cases composed : (w.store t).compose t.token t.environment event properties with
  | mk s result =>
    rw [composed] at bag clock
    have stored : (w.withStore t s).Writes earlier given :=
      writes.withStore (fun known => ⟨bag ▸ (own known).bag, (own known).host⟩) clock
    cases result with
    | ok e =>
      refine stored.submit (fun known shown => ?_) t .track callback
      exact Store.finite_of_compose (own known).bag (own known).host (finite known) composed shown
    | error fault =>
      cases fault with
      | invalid report => exact ⟨stored.trackers, stored.queue, stored.posts⟩
      | _ => exact stored

theorem own_of_current (writes : w.Writes earlier given) (current : w.current? = some t) :
    given → t.Finite :=
  fun known => writes.trackers known t (List.mem_of_getLast? current)

theorem settling : World.Settling (·.Writes earlier given) (given → ·.Finite)
    (given → ·.FiniteEntries) where
  record writes _ := writes.onward id writes.trackers rfl rfl
  told writes _ := writes.onward id writes.trackers rfl rfl
  own writes current := writes.own_of_current current
  nothing _ := nofun
  tracked writes own finite event callback := writes.attemptTrack own finite event callback

theorem refuse (writes : w.Writes earlier given) (callback : Value) (error : TrackerError) :
    (w.refuse callback error).1.Writes earlier given :=
  settling.deliver writes callback _

/-! ### Calls -/

theorem withDistinctId (writes : w.Writes earlier given) (method : String) (callback : Value)
    {go : Text → World.Sent} (going : ∀ id, (go id).1.Writes earlier given) :
    (w.withDistinctId t method callback go).1.Writes earlier given := by
  unfold World.withDistinctId
  simp only
  split
  · exact refuse (settling.record writes _) callback _
  · exact going _

theorem mutate (writes : w.Writes earlier given) {operation : Field} {operand : Value}
    (finite : given → ProfileMutation.FiniteOperand operation operand) (method : String)
    (callback : Value) :
    (w.mutate t method callback operation operand).1.Writes earlier given := by
  refine writes.withDistinctId method callback fun id => ?_
  simp only
  split
  case h_1 => exact refuse (settling.record writes _) callback _
  case h_2 mutation checked =>
    refine settling.settled (writes.submit (fun known _ => ?_) t .engage callback) callback
    exact ProfileMutation.finite_wire (finite known t.token id mutation checked)

theorem withProperties (writes : w.Writes earlier given) (method : String) (prop : Value)
    (value : Option Value) (callback : Value) {go : (properties callback : Value) → World.Sent}
    (going : ∀ listener, (go (.map (givenEntries prop value)) listener).1.Writes earlier given) :
    (w.withProperties method prop value callback go).1.Writes earlier given := by
  cases prop with
  | map entries =>
    cases value with
    | none => exact going callback
    | some v =>
      simp only [World.withProperties]
      split
      · exact going v
      · exact writes.refuse callback _
  | _ =>
    cases value with
    | none =>
      simp only [World.withProperties]
      split
      · exact writes.refuse callback _
      · exact writes
    | some v =>
      simp only [World.withProperties, World.singleProperty]
      split
      case h_1 taken =>
        split at taken
        · cases taken
          exact going callback
        · cases taken
      case h_2 => exact writes

theorem track (writes : w.Writes earlier given) (own : given → t.Finite) {properties : Value}
    (finite : given → properties.FiniteEntries) (event callback : Value) :
    (w.track t event properties callback).1.Writes earlier given := by
  unfold World.track
  rw [arguments_eq]
  exact settling.settled (writes.attemptTrack own (fun known => (finite known).given) event _) _

theorem identify (writes : w.Writes earlier given) (own : given → t.Finite) (id callback : Value) :
    (w.identify t id callback).1.Writes earlier given := by
  have clock := (w.store t).identify_clock id
  have changes := (Action.request (.identify id callback)).changes_onStore (w.store t)
  have kept (known : given) := changes.finite (own known).bag trivial
  rw [Action.onStore] at kept
  unfold World.identify
  cases identified : (w.store t).identify id with
  | mk s result =>
    rw [identified] at clock kept
    have finite (known : given) : Tracker.Finite { t with props := s.props } :=
      ⟨kept known, (own known).host⟩
    have stored : (w.withStore t s).Writes earlier given :=
      writes.withStore finite fun shown => clock ▸ shown
    cases result with
    | error fault => exact stored
    | ok previous =>
      obtain ⟨user, -, -⟩ := Store.distinctId_identify identified
      have linked : (World.identifyProperties previous id).FiniteEntries := by
        rw [user]
        exact finiteEntries_identifyProperties _ _
      exact stored.track finite (fun _ => linked) (.str "$identify") callback

theorem incrementProfile (writes : w.Writes earlier given) {prop amount : Value}
    (finite : given → ∀ entry ∈ givenAmounts prop amount, entry.2.FiniteAmount)
    (callback : Value) :
    (w.incrementProfile t prop amount callback).1.Writes earlier given := by
  have summed (listener : Value) : (w.mutate t "increment" listener ProfileMutation.addField
      (.map (givenAmounts prop amount))).1.Writes earlier given :=
    writes.mutate (fun known => ProfileMutation.finiteOperand_of_amounts (finite known)) _ _
  cases prop with
  | map entries =>
    cases amount with
    | null | callback _ => exact summed _
    | _ => exact writes.refuse _ _
  | _ =>
    simp only [World.incrementProfile, World.singleProperty]
    split
    case h_1 taken =>
      split at taken
      · cases taken
        cases amount <;> exact summed _
      · cases taken
    case h_2 => exact writes

theorem trackCharge (writes : w.Writes earlier given) {properties : Value}
    (finite : given → properties.FiniteEntries) (amount callback : Value) :
    (w.trackCharge t amount properties callback).1.Writes earlier given := by
  unfold World.trackCharge
  rw [arguments_eq]
  refine writes.withDistinctId _ _ fun id => ?_
  split
  case h_1 => exact writes
  case h_2 =>
    simp only
    split
    · exact refuse (settling.record writes _) _ _
    · exact settling.record writes _
  case h_3 number read =>
    split
    case h_1 => exact writes
    case h_2 entries made =>
      refine writes.mutate (fun known => ?_) _ _
      have charged := finite_of_transaction (finite known).given (amountOf_eq_ok_some_iff.1 read).finite made
      refine ProfileMutation.finiteOperand_of_properties (by decide) ?_
      exact List.forall_mem_singleton.2 (Mapping.finite_map_iff.2 charged)

theorem perform (writes : w.Writes earlier given) (own : given → t.Finite) {call : ClientCall}
    (finite : given → call.Finite) : (call.perform w t).1.Writes earlier given := by
  cases call with
  | track event properties callback => exact writes.track own finite event callback
  | identify id callback => exact writes.identify own id callback
  | set prop value callback =>
    refine writes.withProperties "set" prop value callback fun listener => ?_
    exact writes.mutate (fun known =>
      ProfileMutation.finiteOperand_of_properties (by decide) (finite known)) _ _
  | setOnce prop value callback =>
    refine writes.withProperties "set_once" prop value callback fun listener => ?_
    exact writes.mutate (fun known =>
      ProfileMutation.finiteOperand_of_properties (by decide) (finite known)) _ _
  | unset prop callback =>
    simp only [ClientCall.perform, World.unsetProfile]
    split
    · exact writes.mutate (fun _ => ProfileMutation.finiteOperand_of_names _) _ _
    · exact writes
  | increment prop amount callback => exact writes.incrementProfile finite callback
  | charge amount properties callback => exact writes.trackCharge finite amount callback

/-! ### Tasks -/

theorem openChannel (writes : w.Writes earlier given) (own : given → t.Finite) (place : Nat) :
    (w.openChannel place t).1.Writes earlier given := by
  have connected (channel : Option Channel) (session : Option Nat) (known : given) :
      Tracker.Finite { t with channel, session } := ⟨(own known).bag, (own known).host⟩
  unfold World.openChannel
  split
  · exact writes
  · split
    · exact writes.setTracker (connected _ _) place
    · have opened : World.Writes earlier given { w with
          sessions := w.sessions ++ [true]
          traffic := w.traffic ++ [SessionEvent.opens w.sessions.length] } :=
        writes.onward id writes.trackers rfl rfl
      exact opened.setTracker (connected _ _) place

theorem post (writes : w.Writes earlier given) {body : String}
    (made : MadeOf earlier (given ∧ w.clock.FiniteSoFar) body) (channel : Channel) (url : Text) :
    (w.post t channel url body).1.Writes earlier given := by
  obtain ⟨posts, replies, traffic, records, exchange, ⟨timeout, sends⟩, posted⟩ :=
    exists_post_eq w t channel url body
  rw [show w.post t channel url body = _ from posted w.toDisk]
  refine ⟨writes.trackers, writes.queue, fun post mem => ?_⟩
  obtain before | new := List.mem_append.1 mem
  · exact writes.posts post before
  · rw [sends] at new
    split at new
    · rw [List.mem_singleton.1 new]
      exact made
    · cases new

theorem left (writes : w.Writes earlier given) {task : Task} {rest : List Task}
    (waits : w.queue = task :: rest) :
    World.Writes earlier given { w with queue := rest } ∧
      MadeOf earlier (given ∧ w.clock.FiniteSoFar) task.body := by
  have queue := writes.queue
  rw [waits, List.forall_mem_cons] at queue
  exact ⟨⟨writes.trackers, queue.2, writes.posts⟩, queue.1⟩

theorem running : World.Running (·.Writes earlier given) where
  left writes waits := (writes.left waits).1
  posted {w task rest t} writes waits found := by
    obtain ⟨started, made⟩ := writes.left waits
    have own (known : given) := writes.trackers known t (List.mem_of_getElem? found)
    have clock := openChannel_clock { w with queue := rest } task.owner t
    exact (started.openChannel own task.owner).post (clock.symm ▸ made) _ _
  finished writes _ := ⟨writes.trackers, writes.queue, writes.posts⟩

theorem flush (writes : w.Writes earlier given) : w.flush.Writes earlier given :=
  settling.flush running writes

/-! ### Actions and runs -/

theorem action (writes : w.Writes earlier given) (own : given → t.Finite) {action : Action}
    (finite : given → action.Finite) : (action.perform w t).1.Writes earlier given := by
  have store {s : Store} (same : (action.onStore (w.store t)).props = s.props)
      (clock : s.clock = w.clock) : (w.withStore t s).Writes earlier given := by
    refine writes.withStore (fun known => ⟨?_, (own known).host⟩) fun shown => clock ▸ shown
    exact same ▸ (action.changes_onStore (w.store t)).finite (own known).bag (finite known)
  cases action with
  | request call => exact writes.perform own finite
  | register patch => exact store rfl ((w.store t).registerSuper_clock patch)
  | registerOnce patch => exact store rfl ((w.store t).registerSuperOnce_clock patch)
  | unregister key => exact store rfl ((w.store t).unregisterSuper_clock key)
  | reset => exact store rfl (w.store t).reset_clock
  | property key | distinctId => exact writes
  | configure patch more =>
    simp only [Action.perform, Action.perform.answer, World.reconfigure]
    have configured (config : Config) (known : given) : Tracker.Finite { t with config } :=
      ⟨(own known).bag, (own known).host⟩
    split
    case h_1 config _ => exact writes.setTracker (configured config) _
    case h_2 config _ => exact writes.setTracker (configured config) _
  | flush => exact writes.flush

theorem run (writes : w.Writes earlier given) {steps : List TrackerStep}
    (finite : given → ∀ step ∈ steps, step.action.Finite) :
    (w.run steps).Writes earlier given := by
  induction steps generalizing w with
  | nil => exact writes
  | cons step rest ih =>
    refine ih ?_ fun known other mem => finite known other (List.mem_cons_of_mem _ mem)
    have ready : World.Writes earlier given { w with looping := step.looping } :=
      ⟨writes.trackers, writes.queue, writes.posts⟩
    unfold World.take
    simp only
    split
    case h_1 t current =>
      exact ready.action (ready.own_of_current current) fun known =>
        finite known step List.mem_cons_self
    case h_2 => exact ready

end World.Writes

/-- The bodies that a world has posted or is about to post. -/
def World.bodies (w : World) : List String :=
  w.posts.map Post.body ++ w.queue.map Task.body

/-- The text in a body is a JSON document exactly if its payload is finite, and has a NaN or an
infinity among its values exactly if not. Where the bag, the host, the clock and all that callers
give are finite, every body that comes of a run holds a document. -/
theorem bodies_are_documents_of_finite_numbers (w : World) (steps : List TrackerStep) :
    let final := (w.run steps).flush
    let finite := (∀ t ∈ w.trackers, t.Finite) ∧ (∀ step ∈ steps, step.action.Finite) ∧
      final.clock.FiniteSoFar
    ∀ post ∈ final.posts, post.body ∈ w.bodies ∨
      ∃ payload text, encodeBody payload = .ok post.body ∧ bodyText? post.body = some text ∧
        (Json.IsDocument text.toList ↔ payload.finite = true) ∧
        (Json.ShowsForeign text.toList ↔ payload.finite = false) ∧
        (finite → Json.IsDocument text.toList) := by
  intro final finite post posted
  let given := (∀ t ∈ w.trackers, t.Finite) ∧ ∀ step ∈ steps, step.action.Finite
  have start : w.Writes w.bodies given := by
    refine ⟨fun known => known.1, fun task mem => .inl ?_, fun post mem => .inl ?_⟩
    · exact List.mem_append_right _ (List.mem_map_of_mem mem)
    · exact List.mem_append_left _ (List.mem_map_of_mem mem)
  have writes : final.Writes w.bodies given := (start.run fun known => known.2).flush
  obtain old | ⟨payload, encoded, known⟩ := writes.posts post posted
  · exact .inl old
  · right
    obtain ⟨text, json, found⟩ := exists_bodyText?_of_encodeBody encoded
    obtain ⟨document, foreign⟩ := Json.isDocument_encode_iff json
    refine ⟨payload, text, encoded, found, document, foreign, ?_⟩
    rintro ⟨trackers, steps, clock⟩
    exact document.2 (known ⟨⟨trackers, steps⟩, clock⟩)

/-- The body of an increment by two holds a document. -/
theorem bodies_are_documents_of_finite_numbers_two :
    let opened := ((World.fresh ⟨.memory [] [] 0, ⟨[]⟩, []⟩ []).openTracker (.str "T") .standard none
      .direct true).1
    let steps : List TrackerStep := [⟨true, .request (.increment (.str "n") (.int 2) .null)⟩]
    (opened.run steps).flush.posts.length = 1 ∧
      ∀ post ∈ (opened.run steps).flush.posts, ∃ text, bodyText? post.body = some text ∧
        Json.IsDocument text.toList := by
  intro opened steps
  refine ⟨by decide +kernel, fun post mem => ?_⟩
  have sources : ∀ t ∈ opened.trackers, (Value.map t.props).finite = true ∧
      (Environment.defaultProperties t.environment).toValue.finite = true := by decide +kernel
  have trackers : ∀ t ∈ opened.trackers, t.Finite := fun t mem =>
    ⟨Mapping.finite_map_iff.1 (sources t mem).1, Table.finite_toValue_iff.1 (sources t mem).2⟩
  have amount : (Value.int 2).FiniteAmount := by
    rintro n ⟨⟩
    rfl
  have given : ∀ step ∈ steps, step.action.Finite :=
    List.forall_mem_singleton.2 (List.forall_mem_singleton.2 amount)
  have clock : (opened.run steps).flush.clock.FiniteSoFar :=
    Clock.finiteSoFar_of_isTickingUpTo (by decide +kernel)
  have none_before : opened.bodies = [] := by decide +kernel
  obtain old | ⟨payload, text, -, found, -, -, document⟩ :=
    bodies_are_documents_of_finite_numbers opened steps post mem
  · rw [none_before] at old
    cases old
  · exact ⟨text, found, document ⟨trackers, given, clock⟩⟩

/-- NaN is sent as a word that no document has. -/
theorem body_is_no_document_nan :
    let opened := ((World.fresh ⟨.memory [] [] 0, ⟨[]⟩, []⟩ []).openTracker (.str "T") .standard none
      .direct true).1
    let final := (opened.run
      [⟨true, .request (.set (.str "x") (some (.float (.nan 0))) .null)⟩]).flush
    let text := "\x7b\"$token\":\"T\"," ++
      "\"$distinct_id\":\"$device:00000000-0000-0000-0000-000000000001\"," ++
      "\"$set\":\x7b\"x\":NaN\x7d\x7d"
    final.posts.map (fun post => bodyText? post.body) = [some text] ∧
      ¬ Json.IsDocument text.toList := by
  intro opened final text
  let payload : Value := .map [(.str "$token", .str "T"),
    (.str "$distinct_id", .str "$device:00000000-0000-0000-0000-000000000001"),
    (.str "$set", .map [(.str "x", .float (.nan 0))])]
  -- The text is compared where it is printed: to decode the body takes the kernel longer.
  have sent : final.posts.map (fun post => some post.body) = [(encodeBody payload).toOption] := by
    decide +kernel
  have printed : (Json.encode false payload).toOption = some text := by decide +kernel
  have bare : ['N', 'a', 'N'] <:+: Json.bare .outside text.toList := by decide +kernel
  refine ⟨?_, fun document => ?_⟩
  · obtain ⟨post, only, same⟩ := List.map_eq_singleton_iff.1 sent
    obtain ⟨written, json, found⟩ := exists_bodyText?_of_encodeBody (toOption_eq_some_iff.1 same.symm)
    rw [json] at printed
    cases printed
    rw [only, List.map_singleton, found]
  · exact document.not_showsForeign ⟨['N', 'a', 'N'], List.mem_cons_self, bare⟩

end EventTracker
