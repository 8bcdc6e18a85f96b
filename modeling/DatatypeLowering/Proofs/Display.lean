import DatatypeLowering.DataType
/-!
# Display texts name their types

The display text of a type is its element's name (`bool`, `handle`, a native kind with its width,
or `custom[<code>]<width>`), followed by `x` and the lane count when there is more than one lane.
The text leaves out only the width of a handle, and a lane count of one (or none): everything
else can be read back. This module reads it back (`DataType.readDisplay`): the element's name
holds no `x`, so the first `x` ends it; each shape of name starts with its own letters; and a
decimal number, made of digits only, reads back as the number it writes, and stops at the `]`
after a custom code.

So two types of at least one lane have one display text exactly when they have one code, one lane
count, and one width unless they are handles. In particular a boolean never shares its text with
another type, nor a custom type with a native one.

Main statement: `display_determines_dtype`.
-/

namespace DatatypeLowering

theorem TypeCode.toNat_inj {c1 c2 : TypeCode} : c1.toNat = c2.toNat ↔ c1 = c2 := by
  cases c1
  cases c2
  simp [TypeCode.toNat, UInt8.toNat_inj]

namespace DataType

/-- What a type's display text shows: its code, its width unless it is a handle, and its lane
count when it has more than one lane, else one. -/
def shown (t : DataType) : Nat × Option Nat × Nat :=
  (t.code.toNat, if t.code.toNat = 3 then none else some t.bits.toNat,
    if t.isVector then t.lanes.toNat else 1)

/-- Reads an element's name back into its code and, unless it is a handle, its width. -/
def readElementName : List Char → Option (Nat × Option Nat)
  | ['b', 'o', 'o', 'l'] => some (1, some 1)
  | ['h', 'a', 'n', 'd', 'l', 'e'] => some (3, none)
  | 'i' :: 'n' :: 't' :: ds => some (0, some (Nat.ofDigitChars 10 ds 0))
  | 'u' :: 'i' :: 'n' :: 't' :: ds => some (1, some (Nat.ofDigitChars 10 ds 0))
  | 'f' :: 'l' :: 'o' :: 'a' :: 't' :: ds => some (2, some (Nat.ofDigitChars 10 ds 0))
  | 'c' :: 'u' :: 's' :: 't' :: 'o' :: 'm' :: '[' :: rest =>
    some (Nat.ofDigitChars 10 (rest.takeWhile (· != ']')) 0,
      some (Nat.ofDigitChars 10 ((rest.dropWhile (· != ']')).drop 1) 0))
  | _ => none

/-- Reads a display text back: the element's name up to the first `x`, and the lane count after
it, one if there is none. -/
def readDisplay (text : List Char) : Option (Nat × Option Nat × Nat) :=
  (readElementName (text.takeWhile (· != 'x'))).map fun element =>
    (element.1, element.2,
      match text.dropWhile (· != 'x') with
      | [] => 1
      | _ :: ds => Nat.ofDigitChars 10 ds 0)

/-! ## Decimal numbers -/

theorem isDigit_of_mem_toDigits {c : Char} {n : Nat} (h : c ∈ Nat.toDigits 10 n) :
    c.isDigit = true :=
  Nat.isDigit_of_mem_toDigits (by decide) (by decide) h

theorem ne_of_isDigit {c : Char} (h : c.isDigit = true) : c ≠ ']' ∧ c ≠ 'x' := by
  constructor <;> rintro rfl <;> exact absurd h (by decide)

/-- A decimal number followed by a `]` reads back as itself, and what follows the `]` is left. -/
theorem takeWhile_dropWhile_toDigits (n : Nat) (rest : List Char) :
    (Nat.toDigits 10 n ++ ']' :: rest).takeWhile (· != ']') = Nat.toDigits 10 n ∧
      (Nat.toDigits 10 n ++ ']' :: rest).dropWhile (· != ']') = ']' :: rest := by
  have hdigits : ∀ c ∈ Nat.toDigits 10 n, (c != ']') = true := fun c hc => by
    simpa using (ne_of_isDigit (isDigit_of_mem_toDigits hc)).1
  constructor
  · rw [List.takeWhile_append_of_pos hdigits, List.takeWhile_cons_of_neg (by simp),
      List.append_nil]
  · rw [List.dropWhile_append_of_pos hdigits, List.dropWhile_cons_of_neg (by simp)]

/-! ## Element names -/

theorem isBool_iff {t : DataType} : t.isBool = true ↔ t.code.toNat = 1 ∧ t.bits.toNat = 1 := by
  simp only [isBool, isUInt, Bool.and_eq_true, beq_iff_eq]
  constructor
  · rintro ⟨hcode, hbits⟩
    exact ⟨hcode, by rw [hbits]; rfl⟩
  · rintro ⟨hcode, hbits⟩
    exact ⟨hcode, UInt16.toNat_inj.1 hbits⟩

/-- An element's name reads back into its code and, unless it is a handle, its width; and it
holds no `x`. -/
theorem readElementName_elementName (t : DataType) :
    readElementName t.elementName.toList =
        some (t.code.toNat, if t.code.toNat = 3 then none else some t.bits.toNat) ∧
      'x' ∉ t.elementName.toList := by
  have hdigits : ∀ n, 'x' ∉ Nat.toDigits 10 n := fun n h =>
    (ne_of_isDigit (isDigit_of_mem_toDigits h)).2 rfl
  by_cases hbool : t.isBool = true
  · obtain ⟨hcode, hbits⟩ := isBool_iff.1 hbool
    simp [elementName, hbool, hcode, hbits, readElementName.eq_1]
  · unfold elementName
    rw [if_neg hbool]
    rcases Nat.lt_trichotomy t.code.toNat 3 with h | h | h
    · have hkinds : t.code.toNat = 0 ∨ t.code.toNat = 1 ∨ t.code.toNat = 2 := by omega
      rcases hkinds with h | h | h <;>
        simp [TypeCode.nativeKind?, h, NativeKind.name, readElementName.eq_3,
          readElementName.eq_4, readElementName.eq_5, hdigits, Nat.ofDigitChars_ten_toDigits]
    · simp [TypeCode.nativeKind?, h, readElementName.eq_2]
    · obtain ⟨k, hk⟩ : ∃ k, t.code.toNat = k + 4 := ⟨t.code.toNat - 4, by omega⟩
      have hkind : t.code.nativeKind? = none := by simp [TypeCode.nativeKind?, hk]
      obtain ⟨htake, hdrop⟩ :=
        takeWhile_dropWhile_toDigits t.code.toNat (Nat.toDigits 10 t.bits.toNat)
      simp [hkind, TypeCode.display, readElementName.eq_6, htake, hdrop, hdigits,
        Nat.ofDigitChars_ten_toDigits, show t.code.toNat ≠ 3 by omega]

/-! ## Display texts -/

theorem toList_display (t : DataType) :
    t.display.toList =
      t.elementName.toList ++ if t.isVector then 'x' :: Nat.toDigits 10 t.lanes.toNat else [] := by
  unfold display
  split <;> simp

/-- A display text reads back into what it shows. -/
theorem readDisplay_display (t : DataType) : readDisplay t.display.toList = some t.shown := by
  obtain ⟨hname, hx⟩ := readElementName_elementName t
  have hnotx : ∀ c ∈ t.elementName.toList, (c != 'x') = true := fun c hc => by
    simpa using fun h : c = 'x' => hx (h ▸ hc)
  have hsplit : ∀ rest : List Char,
      (t.elementName.toList ++ rest).takeWhile (· != 'x') =
          t.elementName.toList ++ rest.takeWhile (· != 'x') ∧
        (t.elementName.toList ++ rest).dropWhile (· != 'x') = rest.dropWhile (· != 'x') :=
    fun rest => ⟨List.takeWhile_append_of_pos hnotx, List.dropWhile_append_of_pos hnotx⟩
  rw [toList_display, readDisplay, (hsplit _).1, (hsplit _).2]
  cases hv : t.isVector
  · simp [hname, shown, hv]
  · simp [hname, shown, hv, Nat.ofDigitChars_ten_toDigits]

theorem shown_eq_of_display_eq {d1 d2 : DataType} (h : d1.display = d2.display) :
    d1.shown = d2.shown := by
  have hread := readDisplay_display d1
  rw [h, readDisplay_display] at hread
  exact (Option.some_inj.1 hread).symm

theorem elementName_of_handle {t : DataType} (h : t.code.toNat = 3) : t.elementName = "handle" := by
  have hbool : t.isBool = false := by simp [isBool, isUInt, h]
  simp [elementName, hbool, TypeCode.nativeKind?, h]

theorem lanes_of_shown {t : DataType} (h : 1 ≤ t.lanes.toNat) : t.shown.2.2 = t.lanes.toNat := by
  simp only [shown, isVector, decide_eq_true_eq]
  split <;> omega

/-- Types of at least one lane with one display text have one code and one lane count, and one
width unless they are handles. -/
theorem eq_of_display_eq {d1 d2 : DataType} (h1 : 1 ≤ d1.lanes.toNat) (h2 : 1 ≤ d2.lanes.toNat)
    (h : d1.display = d2.display) :
    d1.code = d2.code ∧ d1.lanes = d2.lanes ∧ (d1.bits = d2.bits ∨ d1.code.toNat = 3) := by
  have hshown := shown_eq_of_display_eq h
  have hcode : d1.code.toNat = d2.code.toNat := congrArg Prod.fst hshown
  have hlanes : d1.lanes.toNat = d2.lanes.toNat := by
    rw [← lanes_of_shown h1, ← lanes_of_shown h2, hshown]
  have hbits := congrArg (·.2.1) hshown
  refine ⟨TypeCode.toNat_inj.1 hcode, UInt16.toNat_inj.1 hlanes, ?_⟩
  by_cases h3 : d1.code.toNat = 3
  · exact .inr h3
  · have h3' : d2.code.toNat ≠ 3 := hcode ▸ h3
    simp only [shown, h3, h3', ↓reduceIte, Option.some_inj] at hbits
    exact .inl (UInt16.toNat_inj.1 hbits)

/-- Types of one code and one lane count have one display text when they have one width, or
when they are handles. -/
theorem display_eq_of_eq {d1 d2 : DataType} (hcode : d1.code = d2.code)
    (hlanes : d1.lanes = d2.lanes) (hbits : d1.bits = d2.bits ∨ d1.code.toNat = 3) :
    d1.display = d2.display := by
  rcases hbits with hbits | h3
  · obtain ⟨c1, b1, l1⟩ := d1
    obtain ⟨c2, b2, l2⟩ := d2
    simp only at hcode hlanes hbits
    rw [hcode, hlanes, hbits]
  · have h3' : d2.code.toNat = 3 := hcode ▸ h3
    simp [display, isVector, elementName_of_handle h3, elementName_of_handle h3', hlanes]

/-- A boolean's display text is no other type's: the text reads back as code 1 of width 1. -/
theorem display_ne_of_isBool {d1 d2 : DataType} (hb1 : d1.isBool = true)
    (hb2 : d2.isBool = false) : d1.display ≠ d2.display := by
  intro h
  have hshown := shown_eq_of_display_eq h
  obtain ⟨hcode, hbits⟩ := isBool_iff.1 hb1
  simp only [shown, hcode, hbits, Prod.mk.injEq] at hshown
  obtain ⟨hcode', hbits', -⟩ := hshown
  rw [← hcode'] at hbits'
  simp only [show (1 : Nat) ≠ 3 by decide, ↓reduceIte, Option.some_inj] at hbits'
  have hb2' : d2.isBool = true := isBool_iff.2 ⟨hcode'.symm, hbits'.symm⟩
  rw [hb2] at hb2'
  cases hb2'

/-- A custom type's display text is no native type's: the text reads back as its code. -/
theorem display_ne_of_isNative {d1 d2 : DataType} (hn1 : d1.code.isNative = false)
    (hn2 : d2.code.isNative = true) : d1.display ≠ d2.display := by
  intro h
  have hcode := congrArg Prod.fst (shown_eq_of_display_eq h)
  simp only [TypeCode.isNative, decide_eq_false_iff_not, decide_eq_true_eq] at hn1 hn2
  simp only [shown] at hcode
  omega

end DataType

/-- Two types of at least one lane have the same display text exactly when they have the same
code and lane count, and the same width unless they are handles, whose width the text leaves
out. A boolean's text is no other type's, and a custom type's text is no native type's. -/
theorem display_determines_dtype :
    (∀ d1 d2 : DataType, 1 ≤ d1.lanes.toNat → 1 ≤ d2.lanes.toNat →
      (d1.display = d2.display ↔
        d1.code = d2.code ∧ d1.lanes = d2.lanes ∧ (d1.bits = d2.bits ∨ d1.code.toNat = 3))) ∧
      (∀ d1 d2 : DataType, d1.isBool = true → d2.isBool = false → d1.display ≠ d2.display) ∧
      (∀ d1 d2 : DataType, d1.code.isNative = false → d2.code.isNative = true →
        d1.display ≠ d2.display) :=
  ⟨fun _ _ h1 h2 => ⟨DataType.eq_of_display_eq h1 h2,
      fun ⟨hcode, hlanes, hbits⟩ => DataType.display_eq_of_eq hcode hlanes hbits⟩,
    fun _ _ => DataType.display_ne_of_isBool, fun _ _ => DataType.display_ne_of_isNative⟩

/-- Handles of 64 and of 32 bits share the text `handle`; a boolean is told apart from the 8-bit
unsigned integers, and so is the custom type of code 200 and width 8. -/
theorem handle_widths_share_display :
    let wide := DataType.handle
    let narrow := DataType.handle.withBits 32
    (1 ≤ wide.lanes.toNat ∧ 1 ≤ narrow.lanes.toNat ∧ wide.display = narrow.display) ∧
      (DataType.bool.isBool = true ∧ (DataType.uint 8).isBool = false ∧
        DataType.bool.display ≠ (DataType.uint 8).display) ∧
      ((DataType.custom ⟨200⟩ 8).code.isNative = false ∧ (DataType.uint 8).code.isNative = true ∧
        (DataType.custom ⟨200⟩ 8).display ≠ (DataType.uint 8).display) := by
  intro wide narrow
  obtain ⟨hiff, hbool, hnative⟩ := display_determines_dtype
  have hwide : 1 ≤ wide.lanes.toNat := by decide
  have hnarrow : 1 ≤ narrow.lanes.toNat := by decide
  refine ⟨⟨hwide, hnarrow, (hiff wide narrow hwide hnarrow).2 ⟨rfl, rfl, .inr rfl⟩⟩,
    ⟨rfl, rfl, hbool _ _ rfl rfl⟩, ⟨rfl, rfl, hnative _ _ rfl rfl⟩⟩

end DatatypeLowering
