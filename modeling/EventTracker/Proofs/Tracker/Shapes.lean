import EventTracker.Proofs.Tracker.Handling

/-!
# Shapes of calls

`set`, `setOnce` and `increment` take a mapping, or a name and its value, and their callback
in more than one place. Each such call has a plain shape, with the properties in a mapping
and the callback in its own place. A call that is put into its plain shape does the same,
so calls of one plain shape are interchangeable, whatever a client is asked before and
after. Null in the place of the value is a value, and no callback that is left out.
-/

namespace EventTracker

/-! ## Plain shapes -/

/-- What is added where a callback may stand in the place of the amount. -/
def addend : Value → Value
  | .null | .callback _ => .int 1
  | amount => amount

namespace ClientCall

/-- A call of `set` or `setOnce` in its plain shape. -/
def plainSetter (make : Value → Option Value → Value → ClientCall) (prop : Value)
    (value : Option Value) (callback : Value) : ClientCall :=
  match prop, value with
  | .map entries, some v =>
    if v.callable then make (.map entries) none v else make (.map entries) (some v) callback
  | prop, some v =>
    if prop.hashable then make (.map [(prop, v)]) none callback else make prop (some v) callback
  | prop, none => make prop none callback

/-- A call of `increment` in its plain shape. -/
def plainIncrement (prop amount callback : Value) : ClientCall :=
  match prop, amount with
  | .map entries, .callback c => .increment (.map entries) .null (.callback c)
  | .map entries, amount => .increment (.map entries) amount callback
  | prop, amount =>
    if prop.hashable then
      .increment (.map [(prop, addend amount)]) .null (if amount.callable then amount else callback)
    else .increment prop amount callback

/-- The call with its properties in a mapping and its callback in its own place. What is refused or
fails stays as it is, and so do all calls but those of the setters. -/
def plain : ClientCall → ClientCall
  | .set prop value callback => plainSetter .set prop value callback
  | .setOnce prop value callback => plainSetter .setOnce prop value callback
  | .increment prop amount callback => plainIncrement prop amount callback
  | call => call

variable {w : World} {t : Tracker}

/-- A name with a value stands for a mapping of one property. -/
theorem withProperties_single {prop : Value} (key : prop.hashable = true) (method : String)
    (v callback : Value) (go : (properties callback : Value) → World.Sent) :
    w.withProperties method prop (some v) callback go = go (.map [(prop, v)]) callback := by
  unfold World.withProperties World.singleProperty
  cases prop with
  | map entries => cases key
  | _ => simp only [if_pos key]

theorem perform_plainSetter {make : Value → Option Value → Value → ClientCall} {method : String}
    {go : (properties callback : Value) → World.Sent}
    (performs : ∀ prop value callback, (make prop value callback).perform w t =
      w.withProperties method prop value callback go) (prop : Value) (value : Option Value)
    (callback : Value) :
    (plainSetter make prop value callback).perform w t = (make prop value callback).perform w t := by
  unfold plainSetter
  split
  · split
    · next entries v callable =>
      rw [performs, performs]
      unfold World.withProperties
      simp only [if_pos callable]
    · rfl
  · split
    · next v _ key =>
      rw [performs, performs, withProperties_single key]
      rfl
    · rfl
  · rfl

/-- A name with an amount stands for a mapping of one property. -/
theorem incrementProfile_single {prop : Value} (key : prop.hashable = true) (amount callback : Value) :
    w.incrementProfile t prop amount callback =
      w.incrementProfile t (.map [(prop, addend amount)]) .null
        (if amount.callable then amount else callback) := by
  unfold World.incrementProfile World.singleProperty
  cases prop with
  | map entries => cases key
  | _ =>
    simp only [if_pos key]
    cases amount <;> rfl

theorem perform_plainIncrement (prop amount callback : Value) :
    (plainIncrement prop amount callback).perform w t =
      (increment prop amount callback).perform w t := by
  unfold plainIncrement
  split
  · rfl
  · rfl
  · split
    · next key => exact (incrementProfile_single key _ callback).symm
    · rfl

/-- A call in its plain shape does what it does as it is. -/
theorem perform_plain (call : ClientCall) : call.plain.perform w t = call.perform w t := by
  cases call with
  | set prop value callback =>
    have performs (prop : Value) (value : Option Value) (callback : Value) :
        (set prop value callback).perform w t = w.withProperties "set" prop value callback
          fun properties listener => w.mutate t "set" listener ProfileMutation.setField properties :=
      rfl
    exact perform_plainSetter performs prop value callback
  | setOnce prop value callback =>
    have performs (prop : Value) (value : Option Value) (callback : Value) :
        (setOnce prop value callback).perform w t = w.withProperties "set_once" prop value callback
          fun properties listener =>
            w.mutate t "set_once" listener ProfileMutation.setOnceField properties := rfl
    exact perform_plainSetter performs prop value callback
  | increment prop amount callback => exact perform_plainIncrement prop amount callback
  | _ => rfl

/-! ## Interchangeable calls -/

/-- Two calls are interchangeable if nothing that a client does tells which of them is made, whatever
it is asked before and after: each step has the same answer, and leaves the same world. -/
def Interchangeable (call call' : ClientCall) : Prop :=
  ∀ (w : World) (before after : List ClientStep) (looping : Bool),
    w.handling (before ++ ⟨looping, .act (.request call)⟩ :: after) =
      w.handling (before ++ ⟨looping, .act (.request call')⟩ :: after)

end ClientCall

theorem World.handling_append (w : World) (before after : List ClientStep) :
    w.handling (before ++ after) = w.handling before ++ (w.handled before).handling after := by
  induction before generalizing w with
  | nil => rfl
  | cons step rest ih =>
    rw [List.cons_append, handling, handling, handled_cons, ih, List.cons_append]

namespace ClientCall

variable {call call' : ClientCall}

/-- Calls that do the same are interchangeable. -/
theorem Interchangeable.of_perform
    (same : ∀ w t, call.perform w t = call'.perform w t) : call.Interchangeable call' := by
  intro w before after looping
  have handled (w : World) : w.handle ⟨looping, .act (.request call)⟩ =
      w.handle ⟨looping, .act (.request call')⟩ := by
    simp only [World.handle, World.during, ClientAction.perform, Action.perform,
      Action.perform.answer, same]
  rw [World.handling_append, World.handling_append, World.handling, World.handling, handled]

/-- Calls of one plain shape are interchangeable. -/
theorem Interchangeable.of_plain (same : call.plain = call'.plain) :
    call.Interchangeable call' := by
  refine .of_perform fun w t => ?_
  rw [← perform_plain call, same, perform_plain]

end ClientCall

/-! ## The documented shapes -/

theorem ClientCall.plainSetter_callback {make : Value → Option Value → Value → ClientCall} {c : Value}
    (callable : c.callable = true) (m : Mapping) (callback : Value) :
    plainSetter make (.map m) (some c) callback = plainSetter make (.map m) none c :=
  if_pos callable

/-- The documented shapes of `set` or `setOnce` have one plain shape. -/
theorem ClientCall.setter_shapes {make : Value → Option Value → Value → ClientCall}
    (plain : ∀ prop value callback,
      (make prop value callback).plain = plainSetter make prop value callback)
    (p : String) (v c : Value) (m : Mapping) :
    (make (.str p) (some v) c).Interchangeable (make (.map [(.str p, v)]) none c) ∧
      (c.callable = true →
        (make (.map m) (some c) .null).Interchangeable (make (.map m) none c) ∧
        (make (.str p) (some v) c).Interchangeable (make (.map [(.str p, v)]) (some c) .null)) := by
  refine ⟨.of_plain ?_, fun callable => ⟨.of_plain ?_, .of_plain ?_⟩⟩
  · rw [plain, plain]
    rfl
  · rw [plain, plain, plainSetter_callback callable]
  · rw [plain, plain, plainSetter_callback callable]
    rfl

/-- The documented shapes of the profile's setters, with a function or null for the callback: a name
and a value are interchangeable with a mapping of one property, and a callback in the second place
with one in its own. Null in the second place of `set` and `setOnce` is the exception: they take it
for a value that is not needed, so nothing happens. -/
theorem shapes_of_profile_calls_agree (p : String) (v : Value) (m : Mapping) {c n : Value}
    (heard : c = .null ∨ c.callable = true) (amount : n.callable = false) (given : n ≠ .null) :
    (∀ make ∈ [ClientCall.set, ClientCall.setOnce],
      ((make (.str p) (some v) c).Interchangeable (make (.map [(.str p, v)]) none c) ∧
        (c.callable = true →
          (make (.map m) (some c) .null).Interchangeable (make (.map m) none c) ∧
          (make (.str p) (some v) c).Interchangeable (make (.map [(.str p, v)]) (some c) .null))) ∧
      (c = .null → ∀ w t, (make (.map m) (some c) .null).perform w t = (w, .ok none))) ∧
    (ClientCall.increment (.map m) c .null).Interchangeable (.increment (.map m) .null c) ∧
    (ClientCall.increment (.str p) n c).Interchangeable (.increment (.map [(.str p, n)]) c .null) := by
  have callback : c = .null ∨ ∃ f, c = .callback f := by
    refine heard.imp_right fun callable => ?_
    cases c with
    | callback f => exact ⟨f, rfl⟩
    | _ => cases callable
  refine ⟨?_, .of_plain ?_, .of_plain ?_⟩
  · rw [List.forall_mem_cons, List.forall_mem_singleton]
    refine ⟨⟨ClientCall.setter_shapes (fun _ _ _ => rfl) p v c m, ?_⟩,
      ClientCall.setter_shapes (fun _ _ _ => rfl) p v c m, ?_⟩
    all_goals
      rintro rfl w t
      rfl
  · obtain rfl | ⟨f, rfl⟩ := callback <;> rfl
  · have added : addend n = n := by
      cases n with
      | null => exact absurd rfl given
      | callback f => cases amount
      | _ => rfl
    have single : (ClientCall.increment (.str p) n c).plain =
        .increment (.map [(.str p, n)]) .null c := by
      show ClientCall.increment (.map [(.str p, addend n)]) .null (if n.callable then n else c) = _
      rw [added, amount]
      rfl
    rw [single]
    obtain rfl | ⟨f, rfl⟩ := callback <;> rfl

/-- A function in the second place of a mapping, and an amount under its name. -/
theorem shapes_of_profile_calls_agree_callback :
    let told : Value := .callback ⟨"A", .settle, 0⟩
    let plan : Mapping := [(.str "plan", .str "pro")]
    (ClientCall.set (.map plan) (some told) .null).Interchangeable (.set (.map plan) none told) ∧
      (ClientCall.increment (.str "visits") (.int 2) told).Interchangeable
        (.increment (.map [(.str "visits", .int 2)]) told .null) := by
  intro told plan
  have heard : told = .null ∨ told.callable = true := .inr rfl
  have amount : (Value.int 2).callable = false := rfl
  obtain ⟨setters, -, increment⟩ :=
    shapes_of_profile_calls_agree "visits" .null plan heard amount nofun
  exact ⟨((setters _ List.mem_cons_self).1.2 rfl).1, increment⟩

/-- Null in the second place of a mapping keeps its properties from being sent. -/
theorem set_with_null_is_refused :
    let opened := (World.fresh ⟨.memory [] [] 0, ⟨[]⟩, []⟩ []).openTracker (.str "T") .standard none
      .direct true
    let plan : Value := .map [(.str "plan", .str "pro")]
    let asked (call : ClientCall) := (opened.1.handle ⟨true, .act (.request call)⟩).1.queue
    asked (.set plan (some .null) .null) = [] ∧ (asked (.set plan none .null)).length = 1 ∧
      ¬ (ClientCall.set plan (some .null) .null).Interchangeable (.set plan none .null) := by
  intro opened plan asked
  have nothing : asked (.set plan (some .null) .null) = [] := rfl
  have one : (asked (.set plan none .null)).length = 1 := by decide +kernel
  refine ⟨nothing, one, fun same => ?_⟩
  obtain ⟨same, -⟩ := List.cons.inj (same opened.1 [] [] true)
  have queues : asked (.set plan (some .null) .null) = asked (.set plan none .null) :=
    congrArg (fun result => result.1.queue) same
  rw [← queues, nothing] at one
  cases one

end EventTracker
