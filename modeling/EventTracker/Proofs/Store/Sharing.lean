import EventTracker.Proofs.Storage.Sharing
import EventTracker.Proofs.Store.Lockstep

/-!
# Stores beside each other

Stores under different names share one storage, and what is done with them comes in any
order. Each store goes through its own uses with the bags, the results and the stored
entry that it would have if the others were left unused.
-/

namespace EventTracker

/-! ## Stores on one desk -/

/-- What a store has to itself, apart from its name. -/
structure Bag where
  props : Mapping
  debug : Bool

/-- Stores that stand on one desk. -/
structure Shared (ι : Type) where
  desk : Desk
  bags : ι → Bag

/-- What can be told of a store after a use of it: what the use gave, the bag, and what is
stored. -/
structure Sight where
  result : Except Fault Value
  props : Mapping
  stored : Option Value

/-- A use that draws no ids. -/
def StoreUse.DrawsNoIds : StoreUse → Prop
  | .ask .ensureIdentity | .ask .reset => False
  | _ => True

section Shared

variable {ι : Type} [DecidableEq ι] (names : ι → Text)

namespace Shared

variable (w : Shared ι)

/-- One of the stores. -/
def store (i : ι) : Store :=
  { w.desk with name := .str (names i), props := (w.bags i).props, debug := (w.bags i).debug }

/-- The stores after a use of one of them. -/
def after (step : ι × StoreUse) : Shared ι :=
  let s := (step.2.perform (w.store names step.1)).1
  ⟨s.toDesk, Function.update w.bags step.1 ⟨s.props, s.debug⟩⟩

/-- What is seen of a store when it is used. -/
def sight (step : ι × StoreUse) : Sight where
  result := (step.2.perform (w.store names step.1)).2
  props := ((w.after names step).bags step.1).props
  stored := (w.after names step).desk.stored (names step.1)

/-- Uses one after another, each with the store it is of and what is seen of that store. -/
def trace (w : Shared ι) : List (ι × StoreUse) → List (ι × Sight)
  | [] => []
  | step :: rest => (step.1, w.sight names step) :: (w.after names step).trace rest

end Shared

end Shared

/-! ## One use -/

namespace Store

variable {ι : Type} {names : ι → Text} {place : Option Path} {i : ι}

/-- Two stores under one name, which have the same bag and the same ids, and for which the same is
stored, each on a disk that its writes and removals have led to. -/
structure SideBySide (names : ι → Text) (place : Option Path) (i : ι) (d e : Disk) (s m : Store) :
    Prop where
  props : m.props = s.props
  ids : m.ids = s.ids
  named : s.name = .str (names i) ∧ m.name = .str (names i)
  reached : d.Reaches (.str (names i)) s.toDisk ∧ e.Reaches (.str (names i)) m.toDisk
  stored : m.stored (names i) = s.stored (names i)

theorem toDisk_of_sameBut {s t : Store} (same : SameBut s t) :
    t.toDisk = { s.toDisk with log := t.log } := by
  rw [Disk.mk.injEq]
  exact ⟨same.storage, same.files, rfl⟩

section SideBySide

variable {d e : Disk} (distinct : Function.Injective names) (left : d.Hosts place names)
  (right : e.Hosts place names)

include distinct left right

theorem SideBySide.save {s m : Store} (beside : SideBySide names place i d e s m) :
    SideBySide names place i d e s.save m.save := by
  obtain ⟨props, ids, ⟨named, named'⟩, ⟨reached, reached'⟩, stored⟩ := beside
  unfold Store.save
  rw [props]
  cases storedText? s.props with
  | none => exact ⟨props, ids, ⟨named, named'⟩, ⟨.record _ reached, .record _ reached'⟩, stored⟩
  | some text =>
    obtain ⟨after, done, -, now, -⟩ :=
      (left.of_reaches distinct reached).1.exists_set distinct i text
    obtain ⟨after', done', -, now', -⟩ :=
      (right.of_reaches distinct reached').1.exists_set distinct i text
    have reached := reached.set text
    have reached' := reached'.set text
    rw [done] at reached
    rw [done'] at reached'
    simp only [named, named', done, done']
    exact ⟨props, ids, ⟨named, named'⟩, ⟨reached, reached'⟩, now'.trans now.symm⟩

theorem SideBySide.clear {s m : Store} (beside : SideBySide names place i d e s m) :
    SideBySide names place i d e s.clear m.clear := by
  obtain ⟨-, ids, ⟨named, named'⟩, ⟨reached, reached'⟩, -⟩ := beside
  have named_clear : s.clear.name = .str (names i) ∧ m.clear.name = .str (names i) := by
    rw [clear_name, clear_name]
    exact ⟨named, named'⟩
  revert named_clear
  unfold Store.clear
  obtain ⟨after, done, -, now, -⟩ := (left.of_reaches distinct reached).1.exists_remove distinct i
  obtain ⟨after', done', -, now', -⟩ :=
    (right.of_reaches distinct reached').1.exists_remove distinct i
  have reached := reached.remove
  have reached' := reached'.remove
  rw [done] at reached
  rw [done'] at reached'
  simp only [named, named', done, done']
  exact fun named_clear => ⟨rfl, ids, named_clear, ⟨reached, reached'⟩, now'.trans now.symm⟩

/-- Whatever is done with two such stores, they stay side by side. -/
theorem lockstep_sideBySide : Lockstep (SideBySide names place i d e) where
  props beside := beside.props
  ids beside := beside.ids
  get beside := by
    obtain ⟨-, -, ⟨named, named'⟩, ⟨reached, reached'⟩, stored⟩ := beside
    rw [named, named']
    exact (left.of_reaches distinct reached).1.get_eq (right.of_reaches distinct reached').1 stored
  of_sameBut {s m s' m'} beside same same' := by
    obtain ⟨props, ids, ⟨named, named'⟩, ⟨reached, reached'⟩, stored⟩ := beside
    have disk := toDisk_of_sameBut same
    have disk' := toDisk_of_sameBut same'
    refine ⟨?_, ?_, ⟨same.name.trans named, same'.name.trans named'⟩, ⟨?_, ?_⟩, ?_⟩
    · rw [same.props, same'.props, props]
    · rw [same.ids, same'.ids, ids]
    · rw [disk]
      exact .record _ reached
    · rw [disk']
      exact .record _ reached'
    · rw [disk, disk']
      exact stored
  withProps beside _ := ⟨rfl, beside.ids, beside.named, beside.reached, beside.stored⟩
  withIds beside _ := ⟨beside.props, rfl, beside.named, beside.reached, beside.stored⟩
  save beside := beside.save distinct left right
  clear beside := beside.clear distinct left right

end SideBySide

/-! ## Ids -/

variable {s : Store}

theorem register_ids (patch : Value) : (s.register patch).1.ids = s.ids := by
  unfold register
  split
  · exact save_ids _
  · rfl

theorem registerOnce_ids (patch : Value) : (s.registerOnce patch).1.ids = s.ids := by
  cases patch with
  | map entries =>
    rcases s.registerOnce_cases entries with same | saved
    · rw [same]
    · rw [saved]
      exact save_ids _
  | _ => rfl

theorem unregister_ids (key : Value) : (s.unregister key).1.ids = s.ids := by
  rcases s.unregister_cases key with ⟨fault, refused⟩ | saved
  · rw [refused]
  · rw [saved]
    exact save_ids _

theorem withSuper_ids {op : Store → Mapping → Store × Except Fault Unit}
    (keeps : ∀ s entries, (op s entries).1.ids = s.ids) (patch : Value) :
    (match s.withoutReserved patch with
      | (s, .ok entries) => op s entries
      | (s, .error fault) => (s, .error fault)).1.ids = s.ids := by
  have warned := (s.withoutReserved_fst patch).ids
  generalize s.withoutReserved patch = outcome at warned ⊢
  obtain ⟨s', entries | fault⟩ := outcome
  · exact warned
  · exact (keeps s' _).trans warned

theorem perform_ids {use : StoreUse} (quiet : use.DrawsNoIds) : (use.perform s).1.ids = s.ids := by
  cases use with
  | property key => rfl
  | reopen debug => exact load_ids _
  | ask call =>
    cases call with
    | register patch => exact register_ids patch
    | registerOnce patch => exact registerOnce_ids patch
    | unregister key => exact unregister_ids key
    | clear => exact s.clear_ids
    | save => exact s.save_ids
    | load => exact load_ids _
    | ensureIdentity => exact quiet.elim
    | reset => exact quiet.elim
    | identify id =>
      cases id with
      | str text =>
        by_cases empty : text = ""
        · simp only [StoreUse.perform, StoreCall.perform, identify, if_pos empty]
        · simp only [StoreUse.perform, StoreCall.perform, identify_of_nonempty s empty,
            registerEntries_ids]
      | _ => rfl
    | registerSuper patch =>
      exact withSuper_ids (fun s entries => register_ids (.map entries)) patch
    | registerSuperOnce patch =>
      exact withSuper_ids (fun s entries => registerOnce_ids (.map entries)) patch
    | unregisterSuper key =>
      rcases s.unregisterSuper_cases key with same | ⟨-, removed⟩
      · exact same.ids
      · simp only [StoreUse.perform, StoreCall.perform, removed]
        exact unregister_ids key

end Store

/-! ## One use after another -/

namespace Shared

variable {ι : Type} [DecidableEq ι] {names : ι → Text} {place : Option Path} {i j : ι}
  {w v : Shared ι}

/-- Stores of which one looks the same in two places, whatever the others are like. -/
structure Agree (names : ι → Text) (place : Option Path) (i : ι) (w v : Shared ι) : Prop where
  left : w.desk.Hosts place names
  right : v.desk.Hosts place names
  props : (v.bags i).props = (w.bags i).props
  ids : v.desk.ids = w.desk.ids
  stored : v.desk.stored (names i) = w.desk.stored (names i)

omit [DecidableEq ι] in
theorem Agree.sideBySide (agree : Agree names place i w v) :
    Store.SideBySide names place i w.desk.toDisk v.desk.toDisk (w.store names i)
      (v.store names i) :=
  ⟨agree.props, agree.ids, ⟨rfl, rfl⟩, ⟨.start, .start⟩, agree.stored⟩

/-- A use of the one store looks the same, and so does the store after it. -/
theorem Agree.own (distinct : Function.Injective names) (agree : Agree names place i w v)
    (use : StoreUse) : v.sight names (i, use) = w.sight names (i, use) ∧
      Agree names place i (w.after names (i, use)) (v.after names (i, use)) := by
  obtain ⟨⟨props, ids, -, ⟨reached, reached'⟩, stored⟩, result⟩ :=
    (Store.lockstep_sideBySide distinct agree.left agree.right).use agree.sideBySide use
  have bag : ((v.after names (i, use)).bags i).props = ((w.after names (i, use)).bags i).props := by
    simp only [after, Function.update_self]
    exact props
  refine ⟨?_, (agree.left.of_reaches distinct reached).1,
    (agree.right.of_reaches distinct reached').1, bag, ids, stored⟩
  rw [sight, sight, result, bag]
  exact congrArg _ stored

/-- A use of another store is not seen. -/
theorem Agree.other (distinct : Function.Injective names) (agree : Agree names place i w v)
    (differs : j ≠ i) {use : StoreUse} (quiet : use.DrawsNoIds) :
    Agree names place i (w.after names (j, use)) v := by
  have itself : Store.SideBySide names place j w.desk.toDisk w.desk.toDisk (w.store names j)
      (w.store names j) := ⟨rfl, rfl, ⟨rfl, rfl⟩, ⟨.start, .start⟩, rfl⟩
  obtain ⟨⟨-, -, -, ⟨reached, -⟩, -⟩, -⟩ :=
    (Store.lockstep_sideBySide distinct agree.left agree.left).use itself use
  obtain ⟨hosts, stays⟩ := agree.left.of_reaches distinct reached
  refine ⟨hosts, agree.right, ?_, ?_, ?_⟩
  · simp only [after, Function.update_of_ne differs.symm]
    exact agree.props
  · exact agree.ids.trans (Store.perform_ids (s := w.store names j) quiet).symm
  · exact agree.stored.trans (stays i differs.symm).symm

theorem Agree.trace_eq (distinct : Function.Injective names) (agree : Agree names place i w v)
    {steps : List (ι × StoreUse)} (quiet : ∀ step ∈ steps, step.2.DrawsNoIds) :
    (w.trace names steps).filter (fun seen => decide (seen.1 = i)) =
      v.trace names (steps.filter fun step => decide (step.1 = i)) := by
  induction steps generalizing w v with
  | nil => rfl
  | cons step rest ih =>
    obtain ⟨j, use⟩ := step
    obtain ⟨first, later⟩ := List.forall_mem_cons.1 quiet
    by_cases own : j = i
    · subst own
      obtain ⟨seen, after⟩ := agree.own distinct use
      rw [trace, List.filter_cons_of_pos (by simp), List.filter_cons_of_pos (by simp), trace, seen,
        ih after later]
    · rw [trace, List.filter_cons_of_neg (by simpa using own),
        List.filter_cons_of_neg (by simpa using own)]
      exact ih (agree.other distinct own first) later

/-- Stores under different names on one desk, where at first no access under the names is refused, and
whose folder, if they are in one, is there or has no `..` in its path. No links stand there where
their files go, and their temporary files have no other names. However their uses come, each store is
seen to go through its own uses as it would if the others were left unused. -/
theorem stores_do_not_interfere (distinct : Function.Injective names)
    (grants : ∀ i, w.desk.Grants (names i)) (closed : w.desk.Closed names)
    {steps : List (ι × StoreUse)} (quiet : ∀ step ∈ steps, step.2.DrawsNoIds) (i : ι) :
    (w.trace names steps).filter (fun seen => decide (seen.1 = i)) =
      w.trace names (steps.filter fun step => decide (step.1 = i)) := by
  obtain ⟨place, hosts⟩ := Disk.exists_hosts grants closed i
  have agree : Agree names place i w w := ⟨hosts, hosts, rfl, rfl, rfl⟩
  exact agree.trace_eq distinct quiet

/-- A store with an empty name and one named by a dot, in a folder that is yet to be made. -/
theorem stores_do_not_interfere_dot :
    let names : Bool → Text := fun named => .plain (if named then "." else "")
    let w : Shared Bool :=
      ⟨⟨⟨.folder ["state"], ⟨[]⟩, []⟩, ⟨.succ, 0, []⟩, .ticking 0⟩, fun _ => ⟨[], false⟩⟩
    let steps : List (Bool × StoreUse) :=
      [(true, .ask (.register (.map [(.str "x", .int 1)]))), (false, .ask .save),
        (true, .reopen false), (false, .ask .clear), (true, .property (.str "x"))]
    (w.trace names steps).filter (fun seen => decide (seen.1 = true)) =
      w.trace names (steps.filter fun step => decide (step.1 = true)) := by
  intro names w steps
  have distinct : Function.Injective names := by
    intro one other
    cases one <;> cases other <;> decide
  have room : w.desk.files.Room ["state"] fun named : Bool => if named then "." else "" := by
    refine ⟨FileTree.ofFolder "state", rfl, fun named => ?_⟩
    cases named <;>
      exact ⟨⟨_, none, rfl, FileTree.own_none⟩, ⟨_, none, rfl, FileTree.bare_none⟩⟩
  have linkless : w.desk.files.Linkless := fun _ => FileTree.own_none.sole
  have closed : w.desk.Closed names := by
    intro folder plain place _
    cases place
    exact linkless.closed FileTree.rooted_empty (.inr (by decide))
  have quiet : ∀ step ∈ steps, step.2.DrawsNoIds := by
    simp [steps, StoreUse.DrawsNoIds]
  exact stores_do_not_interfere distinct (Disk.grants_of_room rfl rfl room) closed quiet true

/-- Two stores in a folder, where no access is refused. The first saves its bag before the second
loads one. Whether the second has an empty bag then, and whether one is stored for it, is told for
its own use alone and for its use beside that of the first. -/
def Interferes (folder : Path) (files : FileTree) (alone beside : Bool × Bool) : Prop :=
  let names : Bool → Text := fun first => if first then "j" else "k"
  let w : Shared Bool := ⟨⟨⟨.folder folder, files, []⟩, ⟨.succ, 0, []⟩, .ticking 0⟩,
    fun _ => ⟨[], false⟩⟩
  let steps : List (Bool × StoreUse) := [(true, .ask .save), (false, .ask .load)]
  let told (seen : Bool × Sight) : Bool × Bool := (seen.2.props.isEmpty, seen.2.stored.isSome)
  Function.Injective names ∧ (∀ first, w.desk.Grants (names first)) ∧ files.Rooted ∧
    (w.trace names (steps.filter fun step => decide (step.1 = false))).map told = [alone] ∧
    ((w.trace names steps).filter fun seen => decide (seen.1 = false)).map told = [beside]

/-- A folder that is not there, to which `..` leads out of another one that is not there either. One
store saves its bag, which makes the folder on the way, and now the other finds a bag to load: that
of a file that was there before. In a folder that is there, the bag of the other store is written
over where the temporary file is a link to its file or one of its names, and where the file of the
other is a link to that of the first, it finds the bag of the first. -/
theorem store_uncovers_bag_of_another :
    let bag := utf8Bytes "\x7b\"x\":\"y\"\x7d"
    Interferes ["a", "..", "b"] (Disk.folderOfOne bag) (true, false) (false, true) ∧
    Interferes ["b"] (Disk.folderOf [("k.json", .file bag), ("j.tmp", .link false ["k.json"])])
      (false, true) (true, true) ∧
    Interferes ["b"] (Disk.folderOf [("k.json", .shared 0 bag), ("j.tmp", .shared 0 bag)])
      (false, true) (true, true) ∧
    Interferes ["b"] (Disk.folderOf [("k.json", .link false ["j.json"])])
      (true, false) (true, true) := by
  intro bag
  have distinct : Function.Injective fun first : Bool => (if first then "j" else "k" : Text) := by
    intro one other
    cases one <;> cases other <;> decide
  refine ⟨⟨distinct, fun first => ?_, Disk.rooted_folderOf _, by decide +kernel, by decide +kernel⟩,
    ⟨distinct, fun first => ?_, Disk.rooted_folderOf _, by decide +kernel, by decide +kernel⟩,
    ⟨distinct, fun first => ?_, Disk.rooted_folderOf _, by decide +kernel, by decide +kernel⟩,
    ⟨distinct, fun first => ?_, Disk.rooted_folderOf _, by decide +kernel, by decide +kernel⟩⟩
  all_goals
    cases first <;> exact Disk.grants_of_results (by decide +kernel) (fun _ => rfl) rfl

end Shared

end EventTracker
