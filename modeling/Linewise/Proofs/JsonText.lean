import Linewise.Proofs.JsonGrammar
import Linewise.Proofs.QuotedText

/-! Written JSON values. Whatever its characters are, a text is written inside quotation marks in a form that denotes
it, and so is every value made of such texts, of integers and of the other values that are written without rounding. -/
namespace Linewise.Json

/-- Values with no binary number in them. -/
inductive Exact : Json → Prop
  | null : Exact null
  | bool (b : Bool) : Exact (bool b)
  | int (n : Int) : Exact (int n)
  | text (s : String) : Exact (text s)
  | list {items : List Json} (all : ∀ item ∈ items, Exact item) : Exact (list items)
  | object {fields : List (String × Json)} (all : ∀ field ∈ fields, Exact field.2) : Exact (object fields)

/-! Texts and integers -/

theorem spells_escapeChar (c : Char) : Spells (escapeChar c) c := by
  unfold escapeChar
  split
  iterate 5 exact .letter (by decide)
  next unquoted straight _ _ _ =>
    split
    next code =>
      obtain rfl : c = '\x08' := Char.toNat_inj.mp code
      exact .letter (by decide)
    split
    next code =>
      obtain rfl : c = '\x0c' := Char.toNat_inj.mp code
      exact .letter (by decide)
    split
    next control =>
      have digits : Text.hexNumber? (Text.hexDigits 4 c.toNat) = some c.toNat :=
        Text.hexNumber?_hexDigits (Nat.lt_trans control (by decide))
      obtain ⟨a, b, d, e, shape⟩ := List.length_eq_four.mp (Text.length_hexDigits 4 c.toNat)
      rw [shape] at digits ⊢
      have spelled := Spells.code digits c.valid
      rwa [Char.ofNat_toNat] at spelled
    next shown => exact .plain (Nat.le_of_not_lt shown) unquoted straight

theorem inside_flatMap_escapeChar (s : List Char) : Inside (s.flatMap escapeChar) s := by
  induction s with
  | nil => exact .nil
  | cons c s ih => exact .cons (spells_escapeChar c) ih

theorem toList_quote (s : String) : (quote s).toList = '"' :: s.toList.flatMap escapeChar ++ ['"'] :=
  String.toList_ofList

theorem isWhole_toDigits (n : Nat) : IsWhole (Nat.toDigits 10 n) := by
  refine ⟨IntegerFormat.isDecimal_toDigits n, fun padded => ?_⟩
  rcases Nat.eq_zero_or_pos n with rfl | positive
  · rfl
  · exact absurd padded (IntegerFormat.head?_toDigits positive)

theorem number_toString (n : Int) : Number (toString n).toList (.int n) := by
  have whole := isWhole_toDigits n.natAbs
  by_cases negative : n < 0
  · have number := Number.whole .given whole
    have value : -(n.natAbs : Int) = n := by omega
    rw [Nat.ofDigitChars_ten_toDigits, if_pos rfl, value] at number
    rwa [IntegerFormat.toList_toString_of_neg negative]
  · have number := Number.whole .absent whole
    have value : (n.natAbs : Int) = n := by omega
    rw [Nat.ofDigitChars_ten_toDigits, if_neg Bool.false_ne_true, value] at number
    rwa [IntegerFormat.toList_toString_of_nonneg (by omega)]

/-! Lists and objects -/

theorem isBlank_lineBreak (layout : Layout) (depth : Nat) : IsBlank (layout.lineBreak depth).toList := by
  unfold Layout.lineBreak
  cases layout.step with
  | none => exact fun c member => by simp at member
  | some step =>
    intro c member
    rw [String.toList_ofList, List.mem_cons, List.mem_replicate] at member
    rcases member with rfl | ⟨-, rfl⟩ <;> decide

theorem renderItems_eq_map (layout : Layout) (depth : Nat) (items : List Json) :
    renderItems layout depth items = items.map (render layout depth) := by
  induction items with
  | nil => rfl
  | cons item rest ih => rw [renderItems, ih, List.map_cons]

theorem renderFields_eq_map (layout : Layout) (depth : Nat) (fields : List (String × Json)) :
    renderFields layout depth fields =
      fields.map fun (name, value) => quote name ++ ": " ++ render layout depth value := by
  induction fields with
  | nil => rfl
  | cons field rest ih => rw [renderFields, ih, List.map_cons]

/-- Written parts with commas and white space between them, and white space around them all. -/
theorem separated_intercalate {α : Type} {Part : List Char → α → Prop} {write : α → List Char}
    {space late : List Char} (blank : IsBlank late) {parts : List α} (filled : parts ≠ [])
    (each : ∀ a ∈ parts, ∀ late, IsBlank late → Part (space ++ write a ++ late) a) :
    Separated Part (space ++ List.intercalate (',' :: space) (parts.map write) ++ late) parts := by
  induction parts with
  | nil => exact absurd rfl filled
  | cons a others ih =>
    cases others with
    | nil => simpa using Separated.last (each a (by simp) late blank)
    | cons b others =>
      have rest := ih (List.cons_ne_nil b others) fun part member => each part (List.mem_cons_of_mem a member)
      have first : Part (space ++ write a) a := by
        simpa using each a (by simp) [] isBlank_nil
      simpa using Separated.more first rest

theorem toList_enclose_nil (layout : Layout) (depth : Nat) (opening closing : String) :
    (enclose layout depth opening closing []).toList = opening.toList ++ closing.toList := by
  rw [enclose, if_pos List.isEmpty_nil, String.toList_append]

/-- What stands between the brackets, if there is anything. -/
theorem toList_enclose (layout : Layout) (depth : Nat) (opening closing : String) {parts : List String}
    (filled : parts ≠ []) :
    (enclose layout depth opening closing parts).toList =
      opening.toList ++ ((layout.lineBreak (depth + 1)).toList ++
        List.intercalate (',' :: (layout.lineBreak (depth + 1)).toList) (parts.map String.toList) ++
        (layout.lineBreak depth).toList) ++ closing.toList := by
  rw [enclose, if_neg (by simpa using filled)]
  simp

theorem denotes_render_list {layout : Layout} {depth : Nat} {items : List Json}
    (each : ∀ item ∈ items, Denotes (render layout (depth + 1) item).toList item) :
    Denotes (render layout depth (.list items)).toList (.list items) := by
  rw [render, renderItems_eq_map]
  rcases items with _ | ⟨item, rest⟩
  · rw [List.map_nil, toList_enclose_nil]
    exact .noItems isBlank_nil
  · rw [toList_enclose layout depth _ _ (by simp), List.map_map]
    refine .list (separated_intercalate (isBlank_lineBreak layout depth) (List.cons_ne_nil item rest) ?_)
    exact fun value member late blank => .mk (isBlank_lineBreak layout (depth + 1)) (each value member) blank

theorem denotes_render_object {layout : Layout} {depth : Nat} {fields : List (String × Json)}
    (each : ∀ field ∈ fields, Denotes (render layout (depth + 1) field.2).toList field.2) :
    Denotes (render layout depth (.object fields)).toList (.object fields) := by
  rw [render, renderFields_eq_map]
  rcases fields with _ | ⟨field, rest⟩
  · rw [List.map_nil, toList_enclose_nil]
    exact .noFields isBlank_nil
  · rw [toList_enclose layout depth _ _ (by simp), List.map_map]
    refine .object (separated_intercalate (isBlank_lineBreak layout depth) (List.cons_ne_nil field rest) ?_)
    rintro ⟨name, value⟩ member late blank
    have element : Element ([' '] ++ (render layout (depth + 1) value).toList ++ late) value :=
      .mk (List.forall_mem_singleton.mpr (by decide)) (each _ member) blank
    have written := Member.mk (isBlank_lineBreak layout (depth + 1)) (inside_flatMap_escapeChar name.toList)
      isBlank_nil element
    simpa [toList_quote] using written

/-- Every layout of a value denotes the value. -/
theorem denotes_render (layout : Layout) {value : Json} (exact : Exact value) (depth : Nat) :
    Denotes (render layout depth value).toList value := by
  induction exact generalizing depth with
  | null =>
    rw [render]
    exact .null
  | bool b =>
    cases b <;> rw [render]
    · exact .isFalse
    · exact .isTrue
  | int n =>
    rw [render]
    exact .number (number_toString n)
  | text s =>
    rw [render, toList_quote]
    have denotes := Denotes.text (inside_flatMap_escapeChar s.toList)
    rwa [String.ofList_toList] at denotes
  | list all ih => exact denotes_render_list fun item member => ih item member (depth + 1)
  | object all ih => exact denotes_render_object fun field member => ih field member (depth + 1)

theorem element_render (layout : Layout) {value : Json} (exact : Exact value) (depth : Nat) :
    Element (render layout depth value).toList value := by
  simpa using Element.mk isBlank_nil (denotes_render layout exact depth) isBlank_nil

end Linewise.Json
