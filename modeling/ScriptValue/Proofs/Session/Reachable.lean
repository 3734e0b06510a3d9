import ScriptValue.Proofs.Value.Synthesis
import ScriptValue.Session

/-!
# Values that sessions reach

All slots are null at the start, and every command puts a synthesized value into its slot if the
slots held such values before it. So every value of a session is synthesized, after whatever
commands: the ones that change a value in place, the ones that read it from a document and the ones
that calculate it.

* `Change.synthesized_result`: one change.
* `Store.synthesized_after`, `Store.synthesized_answers`: a whole session.
* `session_values_synthesized`: the sessions that start with null, and what a setter leaves.
-/

namespace ScriptValue

/-! ## Documents -/

/-- What is read from a document is what the reader of trees makes of its root. -/
theorem ok_of_decode {α : Type} {decoder : Json → Json.Decoded α} {text : String} {a : α}
    (h : decode decoder text = .ok a) : decoder (Json.Document.read text).root = .ok a := by
  unfold decode at h
  simp only [bind, Except.bind, pure, Except.pure] at h
  split at h
  · cases h
  · rename_i result hRoot
    split at h
    · cases h
      exact hRoot
    · cases h

/-- A document that is accepted as a value holds its literal. -/
theorem synthesized_of_decode {text : String} {v : Value}
    (h : decode Json.toValue text = .ok v) : v.Synthesized := by
  have hRoot := ok_of_decode h
  unfold Json.toValue at hRoot
  cases hLiteral : (Json.Document.read text).root.toLiteral with
  | error e =>
    rw [hLiteral] at hRoot
    cases hRoot
  | ok l =>
    rw [hLiteral] at hRoot
    cases hRoot
    exact Value.synthesized_ofLiteral l

/-! ## One change -/

theorem ok_of_mapError {ε ε' α : Type} {f : ε → ε'} {x : Except ε α} {a : α}
    (h : x.mapError f = .ok a) : x = .ok a := by
  cases x with
  | error e => cases h
  | ok b =>
    cases h
    rfl

theorem ok_of_bind {ε α β : Type} {x : Except ε α} {f : α → Except ε β} {b : β}
    (h : x >>= f = .ok b) : ∃ a, x = .ok a ∧ f a = .ok b := by
  cases x with
  | error e => cases h
  | ok a => exact ⟨a, rfl, h⟩

theorem Change.synthesized_result {store : Store} (hStore : ∀ s, (store s).Synthesized) {s : Slot}
    {change : Change} {v : Value} (h : change.result store s = .ok v) : v.Synthesized := by
  cases change with
  | keep =>
    cases h
    exact hStore s
  | clear =>
    cases h
    exact .null
  | refresh =>
    cases h
    rw [(hStore s).refresh_eq]
    exact hStore s
  | make literal =>
    cases h
    exact Value.synthesized_ofLiteral literal
  | reload layout => exact synthesized_of_decode (ok_of_mapError h)
  | load document => exact synthesized_of_decode (ok_of_mapError h)
  | write source =>
    cases h
    exact Value.synthesized_write _ source
  | copy a =>
    cases h
    exact hStore a
  | project a kind =>
    cases h
    exact Value.synthesized_write _ _
  | binary symbol a b =>
    obtain ⟨op, -, hRun⟩ := ok_of_bind h
    exact Value.synthesized_binary (ok_of_mapError hRun)
  | unary symbol a =>
    obtain ⟨op, -, hRun⟩ := ok_of_bind h
    exact Value.synthesized_unary (hStore a) (ok_of_mapError hRun)

/-! ## One command -/

theorem Store.synthesized_set {store : Store} (hStore : ∀ s, (store s).Synthesized) (s : Slot)
    {v : Value} (hv : v.Synthesized) (t : Slot) : (store.set s v t).Synthesized := by
  by_cases h : t = s
  · subst h
    rw [set_same]
    exact hv
  · rw [set_of_ne store v h]
    exact hStore t

theorem Command.synthesized_step {store : Store} (hStore : ∀ s, (store s).Synthesized)
    (c : Command) :
    (∀ s, ((c.step store).1 s).Synthesized) ∧
      ∀ v, (c.step store).2 = .value v → v.Synthesized := by
  cases c with
  | same a b => exact ⟨hStore, fun v h => by cases h⟩
  | put s change =>
    unfold step
    dsimp only
    split
    · rename_i v hResult
      have hv := Change.synthesized_result hStore hResult
      refine ⟨Store.synthesized_set hStore s hv, ?_⟩
      rintro _ ⟨⟩
      exact hv
    · exact ⟨hStore, fun v h => by cases h⟩

/-! ## Sessions -/

theorem Store.synthesized_after (cs : List Command) {store : Store}
    (hStore : ∀ s, (store s).Synthesized) : ∀ s, (store.after cs s).Synthesized := by
  induction cs generalizing store with
  | nil => exact hStore
  | cons c cs ih => exact ih (c.synthesized_step hStore).1

theorem Store.synthesized_answers (cs : List Command) {store : Store}
    (hStore : ∀ s, (store s).Synthesized) :
    ∀ v, .value v ∈ store.answers cs → v.Synthesized := by
  induction cs generalizing store with
  | nil =>
    intro v hMem
    cases hMem
  | cons c cs ih =>
    intro v hMem
    have hStep := c.synthesized_step hStore
    rcases List.mem_cons.mp hMem with hHead | hTail
    · exact hStep.2 v hHead.symm
    · exact ih hStep.1 v hTail

theorem Store.synthesized_empty (s : Slot) : (Store.empty s).Synthesized :=
  .null

/-- A value that some session leaves in a slot. -/
def Reachable (v : Value) : Prop :=
  ∃ (cs : List Command) (s : Slot), Store.empty.after cs s = v

theorem Reachable.synthesized {v : Value} (h : Reachable v) : v.Synthesized := by
  obtain ⟨cs, s, rfl⟩ := h
  exact Store.synthesized_after cs Store.synthesized_empty s

/-- In a session every value in a slot and every value in an answer is null or has the readings
that belong to its source. After a setter or a constructor the literal is the source just written,
whatever the value was before. -/
theorem session_values_synthesized :
    (∀ (cs : List Command) (s : Slot), (Store.empty.after cs s).Synthesized) ∧
      (∀ (cs : List Command) (v : Value),
        .value v ∈ Store.empty.answers cs → v.Synthesized) ∧
      ∀ (v : Value) (source : Source),
        (v.write source).literal = some source ∧
          (Value.ofSource source).literal = some source := by
  refine ⟨fun cs => Store.synthesized_after cs Store.synthesized_empty,
    fun cs => Store.synthesized_answers cs Store.synthesized_empty, fun v source => ?_⟩
  exact ⟨Value.literal_write v source, Value.literal_ofSource source⟩

end ScriptValue
