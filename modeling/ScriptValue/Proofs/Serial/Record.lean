import Mathlib.Data.List.Nodup
import ScriptValue.Serial.Basic

/-!
# Records and their layouts

A record is a list of named values. It has several layouts: the array of its values, and the
objects that have its members in any order, among any members of other names (`IsRecord`).

The reader of an object takes in one member after the other. Where a fault stands and which fault
it is depends on the order, so all orders are compared by the result alone, where a fault leaves
nothing (`takeIn`).

* `toOption_walk`: a walk, by its result alone.
* `toOption_walk_record`: the order and the members of other names make no difference, if the step
  skips other names (`Skips`) and takes in any two members of the record in either order
  (`Swappable`).
-/

namespace ScriptValue.Json

theorem ofMembers_eq (members : List (String × Json)) :
    ofMembers members = object (members.map fun m => (some m.1, m.2)) :=
  rfl

/-! ## Layouts -/

/-- The layouts of a record. The values of other members are any JSON without a break, whatever
its strings and its numbers are. -/
inductive IsRecord (fields : List (String × Json)) : Json → Prop where
  | array : IsRecord fields (.array (fields.map (·.2)))
  | object {members : List (String × Json)}
      (known : (members.filter (·.1 ∈ fields.map (·.1))).Perm fields)
      (unknown : ∀ m ∈ members, m.1 ∉ fields.map (·.1) → m.2.isSound = true) :
      IsRecord fields (ofMembers members)

/-- A text that is a document with the record, in one of its layouts. -/
def WritesRecord (fields : List (String × Json)) (text : String) : Prop :=
  ∃ j, IsRecord fields j ∧ Document.read text = ⟨j, true⟩

/-- An object with nothing but the record. -/
theorem IsRecord.of_perm {fields members : List (String × Json)} (h : members.Perm fields) :
    IsRecord fields (ofMembers members) := by
  have hName : ∀ m ∈ members, m.1 ∈ fields.map (·.1) := fun m hm =>
    List.mem_map_of_mem (h.mem_iff.mp hm)
  refine .object ?_ fun m hm hOther => absurd (hName m hm) hOther
  rw [List.filter_eq_self.mpr fun m hm => decide_eq_true (hName m hm)]
  exact h

/-! ## Results without their faults -/

theorem toOption_bind {α β : Type} (a : Decoded α) (f : α → Decoded β) :
    (a >>= f).toOption = a.toOption.bind fun x => (f x).toOption := by
  cases a <;> rfl

theorem toOption_map {α β : Type} (f : α → β) (a : Decoded α) :
    (f <$> a).toOption = a.toOption.map f := by
  cases a <;> rfl

theorem toOption_require {α : Type} (a : Option α) : (require a).toOption = a := by
  cases a <;> rfl

section

variable {α : Type} {step : α → String → Json → Decoded α}

/-- Takes in one member, where a fault leaves nothing. -/
def takeIn (step : α → String → Json → Decoded α) (state : Option α) (m : String × Json) :
    Option α :=
  state.bind fun s => (step s m.1 m.2).toOption

theorem foldl_takeIn_none (members : List (String × Json)) :
    members.foldl (takeIn step) none = none := by
  induction members with
  | nil => rfl
  | cons m ms ih => exact ih

theorem toOption_walk (s : α) (members : List (String × Json)) :
    (walk step s (members.map fun m => (some m.1, m.2))).toOption =
      members.foldl (takeIn step) (some s) := by
  induction members generalizing s with
  | nil => rfl
  | cons m ms ih =>
    rcases m with ⟨key, value⟩
    simp only [List.map_cons, walk, toOption_bind, List.foldl_cons, takeIn, Option.bind_some]
    cases (step s key value).toOption with
    | none => exact (foldl_takeIn_none ms).symm
    | some s' => exact ih s'

/-! ## Members in any order -/

/-- A step that skips the members of all other names. -/
def Skips (step : α → String → Json → Decoded α) (names : List String) : Prop :=
  ∀ s key value, key ∉ names → step s key value = skip value s

/-- Two members that may be taken in in either order. -/
def Swappable (step : α → String → Json → Decoded α) (m m' : String × Json) : Prop :=
  ∀ s, (step s m.1 m.2 >>= fun s' => step s' m'.1 m'.2).toOption =
    (step s m'.1 m'.2 >>= fun s' => step s' m.1 m.2).toOption

theorem Swappable.takeIn_comm {m m' : String × Json} (h : Swappable step m m') (state : Option α) :
    takeIn step (takeIn step state m) m' = takeIn step (takeIn step state m') m := by
  cases state with
  | none => rfl
  | some s =>
    have hBoth := h s
    simp only [toOption_bind] at hBoth
    exact hBoth

/-- A record with two fields needs one law. -/
theorem Swappable.of_two {m m' : String × Json} (h : Swappable step m m') :
    ∀ a ∈ [m, m'], ∀ b ∈ [m, m'], a.1 ≠ b.1 → Swappable step a b := by
  intro a ha b hb hName
  simp only [List.mem_cons, List.not_mem_nil, or_false] at ha hb
  rcases ha with rfl | rfl <;> rcases hb with rfl | rfl
  · exact absurd rfl hName
  · exact h
  · exact fun s => (h s).symm
  · exact absurd rfl hName

theorem takeIn_skip {names : List String} (hSkips : Skips step names) {m : String × Json}
    (hName : m.1 ∉ names) (hSound : m.2.isSound = true) (state : Option α) :
    takeIn step state m = state := by
  cases state with
  | none => rfl
  | some s => simp [takeIn, hSkips s m.1 m.2 hName, skip, hSound, Except.toOption]

/-- What an object with a record is read as depends on the record alone. -/
theorem toOption_walk_record {fields members : List (String × Json)}
    (hNames : (fields.map (·.1)).Nodup) (hSkips : Skips step (fields.map (·.1)))
    (hSwap : ∀ m ∈ fields, ∀ m' ∈ fields, m.1 ≠ m'.1 → Swappable step m m')
    (hKnown : (members.filter (·.1 ∈ fields.map (·.1))).Perm fields)
    (hUnknown : ∀ m ∈ members, m.1 ∉ fields.map (·.1) → m.2.isSound = true) (s : α) :
    (walk step s (members.map fun m => (some m.1, m.2))).toOption =
      fields.foldl (takeIn step) (some s) := by
  have hFilter : members.foldl (takeIn step) (some s) =
      (members.filter (·.1 ∈ fields.map (·.1))).foldl (takeIn step) (some s) := by
    rw [List.foldl_filter]
    apply List.foldl_ext
    intro state m hm
    split
    · rfl
    · rename_i hName
      rw [decide_eq_true_eq] at hName
      exact takeIn_skip hSkips hName (hUnknown m hm hName) state
  rw [toOption_walk, hFilter]
  apply hKnown.foldl_eq'
  intro m hm m' hm' state
  rw [hKnown.mem_iff] at hm hm'
  by_cases hName : m.1 = m'.1
  · rw [List.inj_on_of_nodup_map hNames hm hm' hName]
  · exact (hSwap m hm m' hm' hName).takeIn_comm state

end

end ScriptValue.Json
