import ClassInspect.Proofs.ClassFile.Resolution
import ClassInspect.Proofs.Json.Pretty
import ClassInspect.Proofs.Report.PoolSection

/-!
# Line feeds in the listing of a constant pool

A listing gives each entry of the constant pool a line of its own, with a description behind its kind. Numbers never break
that line, and quotes escape what would. But the entries that only name things are described by texts taken over as they
stand (`ConstantPool.Inserts`), and a text may hold a line feed. Then the description goes on behind the end of its line,
where a reader takes it for the line of another entry. This is the only way in which lines are forged: a listing has one line
for each entry exactly if no text that is taken over holds a line feed.
-/

namespace ClassInspect

/-- The text holds no line feed. -/
def OneLine (text : String) : Prop := '\n' ∉ text.toList

instance (text : String) : Decidable (OneLine text) := inferInstanceAs (Decidable ('\n' ∉ text.toList))

/-- The number of lines that the text ends. -/
def lineFeeds (text : String) : Nat := text.toList.count '\n'

theorem oneLine_empty : OneLine "" := by decide

theorem oneLine_append_iff {text more : String} : OneLine (text ++ more) ↔ OneLine text ∧ OneLine more := by
  simp [OneLine]

theorem oneLine_ofList_iff {text : List Char} : OneLine (String.ofList text) ↔ '\n' ∉ text := by
  rw [OneLine, String.toList_ofList]

/-! ### Numbers and quotes -/

theorem oneLine_of_numeral {text : String} (htext : Json.Numeral text.toList) : OneLine text := by
  intro hfeed
  exact absurd (htext '\n' hfeed) (by decide)

theorem oneLine_toString_int (value : Int) : OneLine (toString value) :=
  oneLine_of_numeral (Json.numeral_toString value)

theorem oneLine_toString_uint16 (value : UInt16) : OneLine (toString value) :=
  oneLine_toString_int value.toNat

theorem oneLine_toString_uint8 (value : UInt8) : OneLine (toString value) :=
  oneLine_toString_int value.toNat

theorem oneLine_listingText (format : BinaryFormat) (bits : Nat) : OneLine (FloatStyle.listingText format bits) := by
  unfold FloatStyle.listingText
  split
  · decide
  · decide
  · decide
  · exact oneLine_of_numeral (Json.numeral_finiteText _ _ _ _ _)

namespace Quoted

theorem lineFeed_not_mem_toDigits (number : Nat) : '\n' ∉ Nat.toDigits 16 number := by
  have hdigit : ∀ digit < 16, '\n' ≠ Nat.digitChar digit := by decide
  induction number using Nat.strongRecOn with
  | ind number ih =>
    rw [Nat.toDigits_eq_if (by decide)]
    split
    · next hlt => simp [hdigit number hlt]
    · next hle => simp [ih (number / 16) (by omega), hdigit (number % 16) (Nat.mod_lt _ (by decide))]

theorem lineFeed_not_mem_escape (char : Char) : '\n' ∉ escape char := by
  unfold escape
  split
  · decide
  · decide
  · decide
  · decide
  · decide
  · decide
  · next hfeed _ _ =>
    split
    · simp [codePoint, lineFeed_not_mem_toDigits]
    · exact fun hmem => hfeed (List.mem_singleton.mp hmem).symm

theorem oneLine_text (content : String) : OneLine (text content) := by
  rw [text, oneLine_ofList_iff]
  simp [lineFeed_not_mem_escape]

end Quoted

/-! ### Descriptions -/

/-- The description of such an entry is made of texts that its links lead to. -/
def Constant.isNaming : Constant → Bool
  | classRef _ | fieldRef .. | methodRef .. | interfaceMethodRef .. | nameAndType .. | methodType _ => true
  | _ => false

namespace ConstantPool

/-- The description of the entry takes over this text as it stands, without quotes. -/
def Inserts (pool : ConstantPool) (index : UInt16) (value : String) : Prop :=
  pool.IsClassName index value ∨
    (∃ found, pool.IsMember index found ∧ value ∈ [found.className, found.name, found.descriptor]) ∨
    (∃ found, pool.IsNameAndType index found ∧ value ∈ [found.1, found.2]) ∨
    ∃ descriptor, pool.get? index = some (.methodType descriptor) ∧ pool.IsText descriptor value

variable {pool : ConstantPool} {index name descriptor owner member : UInt16} {value text : String} {constant : Constant}

theorem Inserts.exists_isNaming (hinserts : pool.Inserts index value) :
    ∃ constant, pool.get? index = some constant ∧ constant.isNaming = true := by
  rcases hinserts with hclass | ⟨found, hmember, -⟩ | ⟨found, hnamed, -⟩ | ⟨descriptor, hentry, -⟩
  · obtain ⟨name, hentry, -⟩ := hclass
    exact ⟨_, hentry, rfl⟩
  · obtain ⟨owner, member, hfield | hmethod | hinterface, -⟩ := hmember
    · exact ⟨_, hfield, rfl⟩
    · exact ⟨_, hmethod, rfl⟩
    · exact ⟨_, hinterface, rfl⟩
  · obtain ⟨name, descriptor, hentry, -⟩ := hnamed
    exact ⟨_, hentry, rfl⟩
  · exact ⟨_, hentry, rfl⟩

theorem inserts_iff_of_classRef (hentry : pool.get? index = some (.classRef name)) :
    pool.Inserts index value ↔ ∃ found, pool.className index = .ok found ∧ value ∈ [found] := by
  simp [Inserts, IsMember, Refers, IsNameAndType, hentry, (verdict_className pool index).ok]

theorem inserts_iff_of_nameAndType (hentry : pool.get? index = some (.nameAndType name descriptor)) :
    pool.Inserts index value ↔ ∃ found, pool.nameAndType index = .ok found ∧ value ∈ [found.1, found.2] := by
  simp only [Inserts, IsMember, Refers, IsClassName, hentry, (verdict_nameAndType pool index).ok]
  simp

theorem inserts_iff_of_refers (hentry : pool.Refers index owner member) :
    pool.Inserts index value ↔
      ∃ found, pool.memberRef index = .ok found ∧ value ∈ [found.className, found.name, found.descriptor] := by
  simp only [(verdict_memberRef pool index).ok]
  rcases hentry with hfield | hmethod | hinterface
  · simp [Inserts, IsNameAndType, IsClassName, hfield]
  · simp [Inserts, IsNameAndType, IsClassName, hmethod]
  · simp [Inserts, IsNameAndType, IsClassName, hinterface]

theorem inserts_iff_of_methodType (hentry : pool.get? index = some (.methodType descriptor)) :
    pool.Inserts index value ↔ ∃ found, pool.utf8 descriptor = .ok found ∧ value ∈ [found] := by
  simp [Inserts, IsMember, Refers, IsNameAndType, IsClassName, hentry, (verdict_utf8 pool descriptor).ok]

/-- Numbers are spelled without line feeds, and quotes escape them. -/
theorem describe_oneLine_of_not_isNaming (hentry : pool.get? index = some constant) (hplain : constant.isNaming = false)
    (hdescribe : pool.describe index = some text) : OneLine text := by
  have hmarks : ∀ mark ∈ ["f", "L", "d", "kind=", " #", "bootstrap="], OneLine mark := by decide
  simp only [List.forall_mem_cons] at hmarks
  obtain ⟨hf, hL, hd, hkind, hlink, hbootstrap, -⟩ := hmarks
  rw [describe, hentry] at hdescribe
  cases constant with
  | unusable => simp at hdescribe
  | utf8 content =>
    rw [← Option.some.inj hdescribe]
    exact Quoted.oneLine_text content
  | string content =>
    obtain ⟨found, -, rfl⟩ := Option.map_eq_some_iff.mp hdescribe
    exact Quoted.oneLine_text found
  | integer number =>
    rw [← Option.some.inj hdescribe]
    exact oneLine_toString_int number.toInt
  | long number =>
    rw [← Option.some.inj hdescribe]
    exact oneLine_append_iff.mpr ⟨oneLine_toString_int number.toInt, hL⟩
  | float bits =>
    rw [← Option.some.inj hdescribe]
    exact oneLine_append_iff.mpr ⟨oneLine_listingText _ _, hf⟩
  | double bits =>
    rw [← Option.some.inj hdescribe]
    exact oneLine_append_iff.mpr ⟨oneLine_listingText _ _, hd⟩
  | methodHandle kind reference =>
    rw [← Option.some.inj hdescribe]
    simp only [oneLine_append_iff]
    exact ⟨⟨⟨hkind, oneLine_toString_uint8 kind⟩, hlink⟩, oneLine_toString_uint16 reference⟩
  | invokeDynamic bootstrap nameAndType =>
    rw [← Option.some.inj hdescribe]
    simp only [oneLine_append_iff]
    exact ⟨⟨⟨hbootstrap, oneLine_toString_uint16 bootstrap⟩, hlink⟩, oneLine_toString_uint16 nameAndType⟩
  | classRef _ | fieldRef _ _ | methodRef _ _ | interfaceMethodRef _ _ | nameAndType _ _ | methodType _ =>
    simp [Constant.isNaming] at hplain

/-- A description that renders what a look-up finds is one line exactly if what goes into it is. -/
theorem oneLine_describe_of_lookup {α : Type} {outcome : Except Fault α} {render : α → String} {pieces : α → List String}
    (hdescribe : pool.describe index = outcome.toOption.map render)
    (hinserts : ∀ value, pool.Inserts index value ↔ ∃ found, outcome = .ok found ∧ value ∈ pieces found)
    (hrender : ∀ found, OneLine (render found) ↔ ∀ value ∈ pieces found, OneLine value) :
    OneLine ((pool.describe index).getD "") ↔ ∀ value, pool.Inserts index value → OneLine value := by
  simp only [hdescribe, hinserts]
  cases outcome with
  | error fault => exact iff_of_true oneLine_empty nofun
  | ok found => simpa [Except.toOption] using hrender found

theorem oneLine_describe_of_not_isNaming (hentry : pool.get? index = some constant) (hplain : constant.isNaming = false) :
    OneLine ((pool.describe index).getD "") ↔ ∀ value, pool.Inserts index value → OneLine value := by
  refine iff_of_true ?_ ?_
  · cases hdescribe : pool.describe index with
    | none => exact oneLine_empty
    | some text => exact describe_oneLine_of_not_isNaming hentry hplain hdescribe
  · intro value hvalue
    obtain ⟨own, hown, hnaming⟩ := hvalue.exists_isNaming
    rw [hentry] at hown
    simp [← Option.some.inj hown, hplain] at hnaming

theorem oneLine_describe_of_refers (hentry : pool.Refers index owner member) :
    OneLine ((pool.describe index).getD "") ↔ ∀ value, pool.Inserts index value → OneLine value := by
  have hdot : OneLine "." := by decide
  have hcolon : OneLine ":" := by decide
  apply oneLine_describe_of_lookup (describe_of_refers hentry) fun value => inserts_iff_of_refers hentry
  intro found
  simp [oneLine_append_iff, hdot, hcolon, and_assoc]

/-- A description is one line exactly if all texts that it takes over are. -/
theorem oneLine_describe_iff (pool : ConstantPool) (index : UInt16) :
    OneLine ((pool.describe index).getD "") ↔ ∀ value, pool.Inserts index value → OneLine value := by
  cases hentry : pool.get? index with
  | none =>
    have hdescribe : pool.describe index = none := by rw [describe, hentry]
    rw [hdescribe]
    refine iff_of_true oneLine_empty ?_
    intro value hvalue
    obtain ⟨constant, hconstant, -⟩ := hvalue.exists_isNaming
    simp [hentry] at hconstant
  | some constant =>
    cases constant with
    | classRef name =>
      apply oneLine_describe_of_lookup (describe_of_classRef hentry) fun value => inserts_iff_of_classRef hentry
      simp
    | nameAndType name descriptor =>
      have hcolon : OneLine ":" := by decide
      apply oneLine_describe_of_lookup (describe_of_nameAndType hentry) fun value => inserts_iff_of_nameAndType hentry
      simp [oneLine_append_iff, hcolon]
    | methodType descriptor =>
      have hdescribe : pool.describe index = (pool.utf8 descriptor).toOption.map fun value => value := by
        rw [describe, hentry]
        exact Option.map_id'.symm
      apply oneLine_describe_of_lookup hdescribe fun value => inserts_iff_of_methodType hentry
      simp
    | fieldRef owner member => exact oneLine_describe_of_refers (.inl hentry)
    | methodRef owner member => exact oneLine_describe_of_refers (.inr (.inl hentry))
    | interfaceMethodRef owner member => exact oneLine_describe_of_refers (.inr (.inr hentry))
    | _ => exact oneLine_describe_of_not_isNaming hentry rfl

end ConstantPool

/-! ### Lines of a report -/

namespace Report

theorem lineFeeds_append (text more : String) : lineFeeds (text ++ more) = lineFeeds text + lineFeeds more := by
  simp [lineFeeds]

theorem lineFeeds_join (lines : List String) :
    lineFeeds (String.join (lines.map (· ++ "\n"))) = lines.length + (lines.flatMap String.toList).count '\n' := by
  induction lines with
  | nil => rfl
  | cons line lines ih =>
    have hfeed : lineFeeds "\n" = 1 := by decide
    rw [List.map_cons, String.join_cons, lineFeeds_append, lineFeeds_append, ih, hfeed, List.length_cons, List.flatMap_cons,
      List.count_append, lineFeeds]
    omega

theorem oneLine_kindName (constant : Constant) : OneLine constant.kindName := by
  cases constant <;> simp [OneLine, Constant.kindName]

theorem oneLine_poolLine_iff (pool : ConstantPool) (entry : PoolEntry) :
    OneLine (poolLine pool entry) ↔ OneLine ((pool.describe entry.index).getD "") := by
  have hmarks : OneLine "  #" ∧ OneLine " = " ∧ OneLine " " := by decide
  have hpadding : OneLine (String.ofList (List.replicate (kindWidth - entry.constant.kindName.length) ' ')) := by
    rw [oneLine_ofList_iff]
    simp
  show OneLine ("  #" ++ toString entry.index ++ " = " ++ entry.constant.kindName ++
    String.ofList (List.replicate (kindWidth - entry.constant.kindName.length) ' ') ++ " " ++
    (pool.describe entry.index).getD "") ↔ _
  simp only [oneLine_append_iff, hmarks, oneLine_toString_uint16, oneLine_kindName, hpadding, true_and]

/-- Each entry adds its own line and those that its description forges. -/
theorem lineFeeds_text_showPool (pool : ConstantPool) (summary : ClassSummary) (settings : Settings) :
    lineFeeds (text pool summary { settings with showPool := true }) =
      lineFeeds (text pool summary { settings with showPool := false }) + (1 + summary.pool.length) +
        ((summary.pool.map (poolLine pool)).flatMap String.toList).count '\n' := by
  have hheading : "constant pool".toList.count '\n' = 0 := by decide
  have hsection : text pool summary { settings with showPool := true } =
      text pool summary { settings with showPool := false } ++
        String.join (("constant pool" :: summary.pool.map (poolLine pool)).map (· ++ "\n")) :=
    text_of_showPool pool summary rfl
  rw [hsection, lineFeeds_append, lineFeeds_join, List.flatMap_cons, List.count_append, hheading, List.length_cons,
    List.length_map]
  omega

variable {file : ClassFile} {summary : ClassSummary}

theorem length_pool (hresolved : file.Resolved summary) :
    summary.pool.length = file.pool.slots.toList.countP (· ≠ .unusable) := by
  rw [hresolved.pool, List.length_map, ConstantPool.length_listing]

theorem forall_oneLine_poolLine_iff (hresolved : file.Resolved summary) :
    (∀ line ∈ summary.pool.map (poolLine file.pool), OneLine line) ↔
      ∀ index value, file.pool.Inserts index value → OneLine value := by
  simp only [List.forall_mem_map, oneLine_poolLine_iff, ConstantPool.oneLine_describe_iff]
  apply Iff.intro
  · intro hentries index value hvalue
    obtain ⟨constant, hentry, hnaming⟩ := hvalue.exists_isNaming
    have husable : constant ≠ .unusable := by
      cases constant <;> simp_all [Constant.isNaming]
    have hmember : ⟨index, constant⟩ ∈ summary.pool := by
      rw [hresolved.pool, ← ConstantPool.entries_eq_listing]
      exact List.mem_map.mpr ⟨_, ConstantPool.mem_entries_of_get? hentry husable, rfl⟩
    exact hentries _ hmember value hvalue
  · intro hinserts entry _
    exact hinserts entry.index

theorem lineFeeds_text_showPool_eq_iff (hresolved : file.Resolved summary) (settings : Settings) :
    lineFeeds (text file.pool summary { settings with showPool := true }) =
        lineFeeds (text file.pool summary { settings with showPool := false }) +
          (1 + file.pool.slots.toList.countP (· ≠ .unusable)) ↔
      ∀ index value, file.pool.Inserts index value → OneLine value := by
  rw [lineFeeds_text_showPool, length_pool hresolved, Nat.add_eq_left, List.count_eq_zero,
    ← forall_oneLine_poolLine_iff hresolved]
  simp only [List.mem_flatMap, not_exists, not_and, OneLine]

/-- The description of an entry is one line exactly if all texts that it takes over are. If a class has a summary, the
listing of its constant pool adds to the report one line for the heading and one for each usable slot exactly if no
entry takes over a text with a line feed. -/
theorem pool_section_adds_one_line_each_iff (file : ClassFile) (settings : Settings) :
    (∀ index text, file.pool.describe index = some text →
      (OneLine text ↔ ∀ value, file.pool.Inserts index value → OneLine value)) ∧
    ∀ summary, file.summary = .ok summary →
      (lineFeeds (text file.pool summary { settings with showPool := true }) =
          lineFeeds (text file.pool summary { settings with showPool := false }) +
            (1 + file.pool.slots.toList.countP (· ≠ .unusable)) ↔
        ∀ index value, file.pool.Inserts index value → OneLine value) := by
  refine ⟨fun index text hdescribe => ?_, fun summary hsummary => ?_⟩
  · rw [← ConstantPool.oneLine_describe_iff, hdescribe]
    rfl
  · exact lineFeeds_text_showPool_eq_iff (ClassFile.summary_eq_ok_iff.mp hsummary) settings

/-- A class with a class entry whose name ends its line and goes on like the line of another entry. -/
def forging : ClassFile where
  minorVersion := 0
  majorVersion := 52
  pool := ⟨#[.utf8 "A", .classRef 1, .utf8 "B\n  #5 = Integer            7", .classRef 3]⟩
  access := ⟨0x21⟩
  thisClass := 2
  superClass := 0
  interfaces := []
  fields := []
  methods := []
  attributes := []

theorem describe_forges_line :
    (∃ description, forging.pool.describe 4 = some description ∧ ¬ OneLine description) ∧
      ∃ summary, forging.summary = .ok summary ∧
        lineFeeds (text forging.pool summary ⟨"A.class", .text, true, true, false⟩) ≠
          lineFeeds (text forging.pool summary ⟨"A.class", .text, false, true, false⟩) +
            (1 + forging.pool.slots.toList.countP (· ≠ .unusable)) := by
  obtain ⟨summary, hsummary⟩ : ∃ summary, forging.summary = .ok summary := ⟨_, rfl⟩
  have hresolved := ClassFile.summary_eq_ok_iff.mp hsummary
  refine ⟨⟨_, rfl, by decide⟩, summary, hsummary, ?_⟩
  intro hlines
  have hinserts := (lineFeeds_text_showPool_eq_iff hresolved ⟨"A.class", .text, true, true, false⟩).mp hlines
  exact absurd (hinserts 4 _ (.inl ⟨3, rfl, rfl⟩)) (by decide)

end Report

end ClassInspect
