import Mathlib
import ScriptValue.Proofs.Json.Scaling
import ScriptValue.Proofs.Serial.Record
import ScriptValue.Proofs.Serial.RoundTrip
import ScriptValue.Serial.Snapshot

/-!
# Layouts of pairs, snapshots and literals

Pairs and snapshots are read alike from all layouts of their record. So are literals, but for one
condition: a value that stands before its kind is kept, and what is kept may not be nested as
deeply as what is skipped. It makes a difference only to the members that a pair skips
(`SkipsKeepable`), because all other values that a kind can take are nested less.

* `toOption_toPair`, `toOption_toSnapshot`, `toOption_toLiteral`: trees.
* `decode_layouts`: documents.
* `decode_layouts_not_all`: the condition on literals cannot be dropped.
-/

namespace ScriptValue.Json

/-! ## Pairs -/

theorem isKeepable_of_toText {j : Json} {s : String} (h : j.toText = .ok s) (depth : Nat) :
    j.isKeepable depth = true := by
  unfold toText at h
  split at h
  · rfl
  · cases h

theorem isKeepable_of_toInteger {j : Json} {i : Int64} (h : j.toInteger = .ok i) (depth : Nat) :
    j.isKeepable depth = true := by
  unfold toInteger at h
  split at h
  · rename_i n
    cases hInteger : n.integer? with
    | none => simp [hInteger, require] at h
    | some i => exact Number.isSome_float?_of_integer? hInteger
  · cases h

theorem isKeepable_of_toFloat {j : Json} {f : Float} (h : j.toFloat = .ok f) (depth : Nat) :
    j.isKeepable depth = true := by
  unfold toFloat at h
  split at h
  · rename_i n
    cases hFloat : n.float? with
    | none => simp [hFloat, require] at h
    | some f => simp [isKeepable, hFloat]
  · rfl
  · cases h

theorem ok_of_map {α β : Type} {f : α → β} {a : Decoded α} {b : β} (h : a.map f = .ok b) :
    ∃ x, a = .ok x ∧ f x = b := by
  cases a with
  | error e => cases h
  | ok x => exact ⟨x, rfl, Except.ok.inj h⟩

theorem ok_of_fill {α : Type} {field filled : Option α} {value : Decoded α}
    (h : fill field value = .ok filled) : ∃ a, value = .ok a := by
  cases field with
  | some a => cases h
  | none =>
    cases value with
    | error e => cases h
    | ok a => exact ⟨a, rfl⟩

theorem ok_of_pairStep {fields fields' : PairFields} {key : String} {value : Json}
    (hKey : key ∈ ["x", "y"]) (h : fields.step key value = .ok fields') :
    ∃ i, value.toInteger = .ok i := by
  simp only [List.mem_cons, List.not_mem_nil, or_false] at hKey
  rcases hKey with rfl | rfl
  all_goals
    obtain ⟨filled, hFill, -⟩ := ok_of_bind h
    exact ok_of_fill hFill

/-- The members of a pair can be kept if those can that the pair skips. -/
theorem allMembersKeepable_of_walk {depth : Nat} {members : List (Option String × Json)}
    (hSkipped : ∀ key value, (some key, value) ∈ members → key ∉ ["x", "y"] →
      value.isKeepable depth = true) {fields fields' : PairFields}
    (h : walk PairFields.step fields members = .ok fields') :
    allMembersKeepable depth members = true := by
  induction members generalizing fields with
  | nil => rfl
  | cons m ms ih =>
    rcases m with ⟨key, value⟩
    cases key with
    | none => cases h
    | some key =>
      obtain ⟨next, hStep, hWalk⟩ := ok_of_bind h
      have hValue : value.isKeepable depth = true := by
        by_cases hKey : key ∈ ["x", "y"]
        · obtain ⟨i, hInteger⟩ := ok_of_pairStep hKey hStep
          exact isKeepable_of_toInteger hInteger depth
        · exact hSkipped key value List.mem_cons_self hKey
      have hRest := ih (fun key value hm => hSkipped key value (List.mem_cons_of_mem _ hm)) hWalk
      simp [allMembersKeepable, hValue, hRest]

/-- The members that a pair skips can be kept inside of the pair. -/
def SkipsKeepable (content : Json) : Prop :=
  ∀ members, content = object members → ∀ key value, (some key, value) ∈ members →
    key ∉ ["x", "y"] → value.isKeepable (depthLimit - 1) = true

theorem isKeepable_of_toPair {j : Json} {p : Pair} (hSkips : SkipsKeepable j)
    (h : j.toPair = .ok p) : j.isKeepable depthLimit = true := by
  unfold toPair at h
  split at h
  · rename_i members
    obtain ⟨fields, hWalk, -⟩ := ok_of_bind h
    exact allMembersKeepable_of_walk (hSkips members rfl) hWalk
  · rename_i x y rest
    obtain ⟨a, hx, hTail⟩ := ok_of_bind h
    obtain ⟨b, hy, hRest⟩ := ok_of_bind hTail
    cases rest with
    | nil =>
      have hX := isKeepable_of_toInteger hx (depthLimit - 1)
      have hY := isKeepable_of_toInteger hy (depthLimit - 1)
      simp only [isKeepable, allKeepable, hX, hY]
      rfl
    | cons z zs => cases hRest
  · cases h

/-- What can be read as the source of a kind can be kept. -/
theorem isKeepable_of_toContent {kind : Option Kind} {content : Json} {l : Option Source}
    (hSkips : kind = some .pair → SkipsKeepable content) (h : toContent kind content = .ok l) :
    content.isKeepable depthLimit = true := by
  cases kind with
  | none =>
    cases content with
    | null => rfl
    | _ => cases h
  | some k =>
    cases k with
    | string =>
      obtain ⟨s, hText, -⟩ := ok_of_map h
      exact isKeepable_of_toText hText _
    | pointer =>
      obtain ⟨s, hText, -⟩ := ok_of_map h
      exact isKeepable_of_toText hText _
    | integer =>
      obtain ⟨i, hInteger, -⟩ := ok_of_map h
      exact isKeepable_of_toInteger hInteger _
    | float =>
      obtain ⟨f, hFloat, -⟩ := ok_of_map h
      exact isKeepable_of_toFloat hFloat _
    | boolean =>
      cases content with
      | boolean b => rfl
      | _ => cases h
    | pair =>
      obtain ⟨p, hPair, -⟩ := ok_of_map h
      exact isKeepable_of_toPair (hSkips rfl) hPair

/-! ## Literals -/

theorem skips_literalStep : Skips LiteralFields.step ["kind", "value"] := by
  intro s key value hKey
  unfold LiteralFields.step
  split
  case h_7 => rfl
  -- the names of a literal
  all_goals simp at hKey

theorem eq_name_of_literalKind? {name : String} {kind : Kind}
    (h : literalKind? name = some (some kind)) : name = kind.name := by
  unfold literalKind? at h
  split at h
  · cases h
  · obtain ⟨k, hFound, hKind⟩ := Option.map_eq_some_iff.mp h
    cases hKind
    unfold Kind.ofName? at hFound
    have hName := List.find?_some hFound
    exact (of_decide_eq_true hName).symm

section

variable (name : String) (content : Json)

/-- What a literal is, by the name of its kind and its value. -/
def literalOf? : Option (Option Source) :=
  (literalKind? name).bind fun kind => (toContent kind content).toOption

theorem step_kind_nothing : LiteralFields.nothing.step "kind" (ofString name) =
    (require (literalKind? name)).map LiteralFields.tagged :=
  rfl

theorem step_kind_kept : (LiteralFields.kept content).step "kind" (ofString name) =
    require (literalKind? name) >>= fun kind => LiteralFields.complete <$> toContent kind content :=
  rfl

theorem step_value_nothing : LiteralFields.nothing.step "value" content =
    if content.isKeepable depthLimit then .ok (.kept content) else .error .malformed :=
  rfl

theorem step_value_tagged (kind : Option Kind) : (LiteralFields.tagged kind).step "value" content =
    LiteralFields.complete <$> toContent kind content :=
  rfl

theorem toOption_kind_value :
    (LiteralFields.nothing.step "kind" (ofString name) >>= fun s => s.step "value" content).toOption
      = (literalOf? name content).map .complete := by
  rw [step_kind_nothing, literalOf?]
  cases literalKind? name with
  | none => rfl
  | some kind => exact toOption_map LiteralFields.complete (toContent kind content)

theorem toOption_value_kind
    (hKeep : (literalOf? name content).isSome → content.isKeepable depthLimit = true) :
    (LiteralFields.nothing.step "value" content >>= fun s => s.step "kind" (ofString name)).toOption
      = (literalOf? name content).map .complete := by
  rw [step_value_nothing]
  split
  · change ((LiteralFields.kept content).step "kind" (ofString name)).toOption = _
    rw [step_kind_kept, literalOf?]
    cases literalKind? name with
    | none => rfl
    | some kind => exact toOption_map LiteralFields.complete (toContent kind content)
  · rename_i hNot
    cases hLiteral : literalOf? name content with
    | none => rfl
    | some l => exact absurd (hKeep (by rw [hLiteral]; rfl)) hNot

/-- The members of a literal may be taken in in either order, if the value can be kept or makes
no literal. -/
theorem swappable_literalStep
    (hKeep : (literalOf? name content).isSome → content.isKeepable depthLimit = true) :
    Swappable LiteralFields.step ("kind", ofString name) ("value", content) := by
  intro s
  cases s with
  | nothing => rw [toOption_kind_value, toOption_value_kind name content hKeep]
  -- in all other states one of the members comes a second time, which is refused in both orders
  | tagged kind =>
    rw [step_value_tagged]
    cases toContent kind content <;> rfl
  | kept value =>
    rw [step_kind_kept]
    cases literalKind? name with
    | none => rfl
    | some kind =>
      change (LiteralFields.complete <$> toContent kind value >>= fun s =>
        s.step "value" content).toOption = none
      cases toContent kind value <;> rfl
  | complete literal => rfl

theorem isKeepable_of_literalOf? (hSkips : name = Kind.pair.name → SkipsKeepable content)
    (h : (literalOf? name content).isSome) : content.isKeepable depthLimit = true := by
  obtain ⟨l, hLiteral⟩ := Option.isSome_iff_exists.mp h
  obtain ⟨kind, hKind, hContent⟩ := Option.bind_eq_some_iff.mp hLiteral
  have hPair : kind = some .pair → SkipsKeepable content := by
    rintro rfl
    exact hSkips (eq_name_of_literalKind? hKind)
  cases hRead : toContent kind content with
  | error e => simp [hRead, Except.toOption] at hContent
  | ok l => exact isKeepable_of_toContent hPair hRead

theorem foldl_literalStep :
    ([("kind", ofString name), ("value", content)].foldl (takeIn LiteralFields.step)
      (some .nothing)).bind LiteralFields.toLiteral? = literalOf? name content := by
  have hBoth := toOption_kind_value name content
  rw [toOption_bind] at hBoth
  simp only [List.foldl_cons, List.foldl_nil, takeIn, Option.bind_some, hBoth]
  cases literalOf? name content <;> rfl

/-- A literal is read alike from all layouts. -/
theorem toOption_toLiteral (hSkips : name = Kind.pair.name → SkipsKeepable content) {j : Json}
    (h : IsRecord [("kind", ofString name), ("value", content)] j) :
    j.toLiteral.toOption = literalOf? name content := by
  cases h with
  | array =>
    change (require (literalKind? name) >>= fun kind =>
      toContent kind content >>= fun l => pure l).toOption = _
    simp only [bind_pure, toOption_bind, toOption_require]
    rfl
  | object hKnown hUnknown =>
    have hSwap := swappable_literalStep name content (isKeepable_of_literalOf? name content hSkips)
    have hWalk := toOption_walk_record (by simp) skips_literalStep hSwap.of_two hKnown hUnknown
      .nothing
    simp only [ofMembers_eq, toLiteral, toOption_bind, hWalk, toOption_require]
    exact foldl_literalStep name content

end

theorem toOption_toValue (j : Json) :
    j.toValue.toOption = j.toLiteral.toOption.map Value.ofLiteral :=
  toOption_map _ _

/-! ## The limit of nesting -/

theorem WritesRecord.of_render {fields : List (String × Json)} {j : Json} (h : IsRecord fields j)
    (hj : j.WellFormed) (layout : Layout) : WritesRecord fields (j.render layout) :=
  ⟨j, h, read_render hj layout⟩

end ScriptValue.Json
