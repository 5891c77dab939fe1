import ClassInspect.Proofs.Text.Utf16
import Mathlib.Data.List.Induction

/-!
# Surrogates and their partners

`Lossy` says what a sequence of units stands for without saying how it is read: the units of a character are that
character, and only a surrogate whose partner is missing is replaced. The decoder finds this text and no other. Two
facts follow by going through its rules: no character is a replacement exactly if all surrogates pair up, and two
sequences can be read apart unless a pair is torn at the seam.
-/

namespace ClassInspect.Utf16

/-- The units stand for the characters. A high surrogate has lost its partner if no low one comes next, and a low one
if it is not met as the second half of a character. -/
inductive Lossy : List UInt16 → List Char → Prop
  | nil : Lossy [] []
  | char (char : Char) {rest : List UInt16} {text : List Char} (hrest : Lossy rest text) :
      Lossy (charUnits char ++ rest) (char :: text)
  | high {unit : UInt16} {rest : List UInt16} {text : List Char} (hhigh : isHigh unit = true)
      (hnext : rest.head?.any isLow = false) (hrest : Lossy rest text) : Lossy (unit :: rest) (replacement :: text)
  | low {unit : UInt16} {rest : List UInt16} {text : List Char} (hlow : isLow unit = true)
      (hrest : Lossy rest text) : Lossy (unit :: rest) (replacement :: text)

/-! ### Units and characters -/

theorem isLow_eq_false_of_isHigh {unit : UInt16} (hhigh : isHigh unit = true) : isLow unit = false := by
  rw [isHigh_eq_true_iff] at hhigh
  rw [← Bool.not_eq_true, isLow_eq_true_iff]
  omega

theorem isHigh_eq_false_of_isLow {unit : UInt16} (hlow : isLow unit = true) : isHigh unit = false := by
  rw [isLow_eq_true_iff] at hlow
  rw [← Bool.not_eq_true, isHigh_eq_true_iff]
  omega

theorem toNat_ofNat_of_isValidChar {number : Nat} (hvalid : number.isValidChar) : (Char.ofNat number).toNat = number := by
  rw [Char.ofNat, dif_pos hvalid]
  rfl

theorem charUnits_of_not_surrogate {unit : UInt16} (hhigh : isHigh unit = false) (hlow : isLow unit = false) :
    charUnits (Char.ofNat unit.toNat) = [unit] := by
  rw [← Bool.not_eq_true, isHigh_eq_true_iff] at hhigh
  rw [← Bool.not_eq_true, isLow_eq_true_iff] at hlow
  have hunit := unit.toNat_lt
  have hvalid : unit.toNat.isValidChar := by
    rw [Nat.isValidChar]
    omega
  rw [charUnits, toNat_ofNat_of_isValidChar hvalid, if_pos hunit, UInt16.ofNat_toNat]

theorem charUnits_pair {high low : UInt16} (hhigh : isHigh high = true) (hlow : isLow low = true) :
    charUnits (pair high low) = [high, low] := by
  rw [isHigh_eq_true_iff] at hhigh
  rw [isLow_eq_true_iff] at hlow
  have hvalid : (0x10000 + (high.toNat - 0xD800) * 0x400 + (low.toNat - 0xDC00)).isValidChar := by
    rw [Nat.isValidChar]
    omega
  have hupper : 0xD800 + (0x10000 + (high.toNat - 0xD800) * 0x400 + (low.toNat - 0xDC00) - 0x10000) / 0x400 =
      high.toNat := by omega
  have hlower : 0xDC00 + (0x10000 + (high.toNat - 0xD800) * 0x400 + (low.toNat - 0xDC00) - 0x10000) % 0x400 =
      low.toNat := by omega
  rw [charUnits, pair, toNat_ofNat_of_isValidChar hvalid, if_neg (by omega)]
  change [UInt16.ofNat _, UInt16.ofNat _] = _
  rw [hupper, hlower, UInt16.ofNat_toNat, UInt16.ofNat_toNat]

theorem lone_of_isHigh {unit : UInt16} (hhigh : isHigh unit = true) : lone unit = replacement := by
  rw [lone, hhigh, Bool.true_or, if_pos rfl]

theorem lone_of_isLow {unit : UInt16} (hlow : isLow unit = true) : lone unit = replacement := by
  rw [lone, hlow, Bool.or_true, if_pos rfl]

theorem chars_high {unit : UInt16} {rest : List UInt16} (hhigh : isHigh unit = true)
    (hnext : rest.head?.any isLow = false) : chars (unit :: rest) = replacement :: chars rest := by
  have hlone : ∀ next later, rest = next :: later → ¬ (isHigh unit = true ∧ isLow next = true) := by
    intro next later hrest hpair
    rw [hrest, List.head?_cons, Option.any_some, hpair.2] at hnext
    exact Bool.noConfusion hnext
  rw [chars_cons hlone, lone_of_isHigh hhigh]

theorem chars_low {unit : UInt16} (hlow : isLow unit = true) (rest : List UInt16) :
    chars (unit :: rest) = replacement :: chars rest := by
  have hlone : ∀ next later, rest = next :: later → ¬ (isHigh unit = true ∧ isLow next = true) := by
    simp [isHigh_eq_false_of_isLow hlow]
  rw [chars_cons hlone, lone_of_isLow hlow]

/-! ### The decoder finds the text -/

theorem Lossy.chars_eq {units : List UInt16} {text : List Char} (hlossy : Lossy units text) : chars units = text := by
  induction hlossy with
  | nil => rfl
  | char char _ ih => rw [chars_charUnits_append, ih]
  | high hhigh hnext _ ih => rw [chars_high hhigh hnext, ih]
  | low hlow _ ih => rw [chars_low hlow, ih]

theorem Lossy.self {units : List UInt16} {text : List Char} (hlossy : Lossy units text) :
    Lossy units (chars units) := by
  rwa [hlossy.chars_eq]

/-- A unit in front of others is a character of its own, the first half of one, or a surrogate without a partner. -/
theorem lossy_cons {unit : UInt16} {rest : List UInt16} (hrest : Lossy rest (chars rest))
    (hlater : ∀ low later, rest = low :: later → Lossy later (chars later)) :
    Lossy (unit :: rest) (chars (unit :: rest)) := by
  cases hhigh : isHigh unit with
  | true =>
    cases hnext : rest.head?.any isLow with
    | false => exact (Lossy.high hhigh hnext hrest).self
    | true =>
      obtain ⟨low, hhead, hlow⟩ := (Option.any_eq_true _ _).mp hnext
      obtain ⟨later, rfl⟩ := List.head?_eq_some_iff.mp hhead
      have hpair := Lossy.char (pair unit low) (hlater low later rfl)
      rw [charUnits_pair hhigh hlow] at hpair
      exact hpair.self
  | false =>
    cases hlow : isLow unit with
    | true => exact (Lossy.low hlow hrest).self
    | false =>
      have hown := Lossy.char (Char.ofNat unit.toNat) hrest
      rw [charUnits_of_not_surrogate hhigh hlow] at hown
      exact hown.self

theorem lossy_chars (units : List UInt16) : Lossy units (chars units) := by
  -- a pair takes two units, so the induction hands out the text behind the second unit as well
  induction units using List.twoStepInduction with
  | nil => exact .nil
  | singleton unit => exact lossy_cons .nil nofun
  | cons_cons unit next rest hrest hnext =>
    apply lossy_cons (hnext next)
    intro low later heq
    obtain ⟨rfl, rfl⟩ := List.cons.inj heq
    exact hrest

/-- The decoder finds the text that the units stand for, and there is only one. -/
theorem decode_eq_iff_lossy {units : List UInt16} {text : String} : decode units = text ↔ Lossy units text.toList := by
  rw [decode_eq]
  apply Iff.intro
  · intro htext
    rw [← htext, String.toList_ofList]
    exact lossy_chars units
  · intro hlossy
    rw [hlossy.chars_eq, String.ofList_toList]

/-! ### Sequences without a lost partner -/

/-- All surrogates stand in pairs. -/
structure PairsUp (units : List UInt16) : Prop where
  /-- Every high surrogate is directly followed by a low one. -/
  followed : ∀ k, units[k]?.any isHigh = true → units[k + 1]?.any isLow = true
  /-- Every low surrogate is directly preceded by a high one. -/
  preceded : ∀ k, units[k + 1]?.any isLow = true → units[k]?.any isHigh = true
  first : units[0]?.any isLow = false

theorem pairsUp_iff {units : List UInt16} :
    PairsUp units ↔ units[0]?.any isLow = false ∧ ∀ k, units[k]?.any isHigh = units[k + 1]?.any isLow := by
  apply Iff.intro
  · intro hpairs
    refine ⟨hpairs.first, fun k => ?_⟩
    exact Bool.eq_iff_iff.mpr ⟨hpairs.followed k, hpairs.preceded k⟩
  · intro hpairs
    obtain ⟨hfirst, hnext⟩ := hpairs
    exact ⟨fun k => (hnext k).symm.trans, fun k => (hnext k).trans, hfirst⟩

theorem pairsUp_cons_iff {unit : UInt16} {rest : List UInt16} :
    PairsUp (unit :: rest) ↔
      isLow unit = false ∧ isHigh unit = rest[0]?.any isLow ∧ ∀ k, rest[k]?.any isHigh = rest[k + 1]?.any isLow := by
  rw [pairsUp_iff, ← Nat.and_forall_add_one]
  simp only [List.getElem?_cons_zero, List.getElem?_cons_succ, Option.any_some]

/-- The units of a character neither lack a partner nor are one. -/
theorem pairsUp_charUnits_append_iff (char : Char) {rest : List UInt16} :
    PairsUp (charUnits char ++ rest) ↔ PairsUp rest := by
  obtain ⟨unit, hunits, -, hhigh, hlow⟩ | ⟨high, low, hunits, hhigh, hlow, -⟩ := charUnits_cases char
  · rw [hunits, List.singleton_append, pairsUp_cons_iff, pairsUp_iff, hhigh, hlow, eq_comm (a := false)]
    simp
  · rw [hunits, List.cons_append, List.singleton_append, pairsUp_cons_iff, pairsUp_iff, ← Nat.and_forall_add_one]
    simp [hhigh, hlow, isLow_eq_false_of_isHigh hhigh, isHigh_eq_false_of_isLow hlow]

theorem mem_charUnits_iff {char : Char} : 0xFFFD ∈ charUnits char ↔ char = replacement := by
  obtain ⟨unit, hunits, hnumber, -, -⟩ | ⟨high, low, hunits, hhigh, hlow, -⟩ := charUnits_cases char
  · rw [hunits, List.mem_singleton, ← Char.toNat_inj, ← hnumber, ← UInt16.toNat_inj]
    exact eq_comm
  · apply iff_of_false
    · rw [hunits]
      intro hmember
      simp only [List.mem_cons, List.not_mem_nil, or_false] at hmember
      obtain rfl | rfl := hmember
      · exact absurd hhigh (by decide)
      · exact absurd hlow (by decide)
    · intro hchar
      rw [hchar] at hunits
      exact absurd hunits (by simp [charUnits, replacement])

theorem Lossy.replacement_not_mem_iff {units : List UInt16} {text : List Char} (hlossy : Lossy units text) :
    replacement ∉ text ↔ 0xFFFD ∉ units ∧ PairsUp units := by
  induction hlossy with
  | nil => simp [pairsUp_iff]
  | char char _ ih =>
    rw [List.mem_cons, not_or, ih, List.mem_append, not_or, mem_charUnits_iff, pairsUp_charUnits_append_iff,
      and_assoc, eq_comm]
  | high hhigh hnext _ _ =>
    apply iff_of_false (not_not_intro List.mem_cons_self)
    intro hunits
    have hpartner := (pairsUp_cons_iff.mp hunits.2).2.1
    rw [hhigh, ← List.head?_eq_getElem?, hnext] at hpartner
    exact Bool.noConfusion hpartner
  | low hlow _ _ =>
    apply iff_of_false (not_not_intro List.mem_cons_self)
    intro hunits
    have hfirst := (pairsUp_cons_iff.mp hunits.2).1
    rw [hlow] at hfirst
    exact Bool.noConfusion hfirst

/-! ### Reading two sequences apart -/

/-- A pair of surrogates has one half in each sequence. -/
def Torn (units more : List UInt16) : Prop := units.getLast?.any isHigh = true ∧ more.head?.any isLow = true

theorem Torn.append_left {units more : List UInt16} (htorn : Torn units more) (earlier : List UInt16) :
    Torn (earlier ++ units) more := by
  obtain ⟨last, hlast, hhigh⟩ := (Option.any_eq_true _ _).mp htorn.1
  refine ⟨?_, htorn.2⟩
  rw [List.getLast?_append, hlast, Option.some_or, Option.any_some, hhigh]

theorem Lossy.append {units more : List UInt16} {text further : List Char} (hlossy : Lossy units text)
    (hmore : Lossy more further) (hseam : ¬ Torn units more) : Lossy (units ++ more) (text ++ further) := by
  induction hlossy with
  | nil => exact hmore
  | char char _ ih =>
    rw [List.append_assoc]
    exact .char char (ih fun htorn => hseam (htorn.append_left _))
  | @high unit rest _ hhigh hnext _ ih =>
    refine .high hhigh ?_ (ih fun htorn => hseam (htorn.append_left [unit]))
    -- the unit behind the surrogate is another one only if it was the last
    cases rest with
    | nil => exact Bool.eq_false_iff.mpr fun hlow => hseam ⟨hhigh, hlow⟩
    | cons next later => exact hnext
  | @low unit _ _ hlow _ ih => exact .low hlow (ih fun htorn => hseam (htorn.append_left [unit]))

theorem chars_append {units more : List UInt16} (hseam : ¬ Torn units more) :
    chars (units ++ more) = chars units ++ chars more :=
  ((lossy_chars units).append (lossy_chars more) hseam).chars_eq

/-- A torn pair is one character where the halves are two. -/
theorem length_chars_of_torn {units more : List UInt16} (htorn : Torn units more) :
    (chars units ++ chars more).length = (chars (units ++ more)).length + 1 := by
  obtain ⟨high, hlast, hhigh⟩ := (Option.any_eq_true _ _).mp htorn.1
  obtain ⟨low, hhead, hlow⟩ := (Option.any_eq_true _ _).mp htorn.2
  obtain ⟨earlier, rfl⟩ := List.getLast?_eq_some_iff.mp hlast
  obtain ⟨later, rfl⟩ := List.head?_eq_some_iff.mp hhead
  have hstart : ∀ rest, ¬ Torn earlier (high :: rest) := by
    intro rest hstart
    have hclash := isLow_eq_false_of_isHigh hhigh
    rw [show isLow high = true from hstart.2] at hclash
    exact Bool.noConfusion hclash
  rw [List.append_assoc, List.singleton_append, chars_append (hstart _), chars_append (hstart _),
    chars_pair hhigh hlow, chars_high hhigh rfl, chars_low hlow]
  simp only [List.length_append, List.length_cons, chars_nil, List.length_nil]
  omega

/-- Two sequences can be read apart exactly if no pair is torn. -/
theorem decode_append_eq_iff {units more : List UInt16} :
    decode (units ++ more) = decode units ++ decode more ↔ ¬ Torn units more := by
  simp only [decode_eq, ← String.ofList_append]
  rw [String.ofList_inj]
  apply Iff.intro
  · intro heq htorn
    have hlength := length_chars_of_torn htorn
    rw [heq] at hlength
    exact absurd hlength (Nat.ne_add_one _)
  · exact chars_append

end ClassInspect.Utf16
