import ClassInspect.Bytes.Cursor
import ClassInspect.Proofs.Bytes.BigEndian

/-!
# Decoders that read in order

A decoder could inspect its cursor in any way. The decoders of the class file format do not: each is
built from `bytes`, `pure` and `fail` alone, which is what `Sequential` says. Everything that relates two
runs of one decoder follows from that by one induction. What a run consumed is read again in any
surroundings (`Reads`), a refusal is final (`Refuses`), and a run on a cut input stops at the very read
that crosses the cut.

`Reads` and `Refuses` speak about a decoder without a cursor. Each combinator has one law for each of
them, and later modules describe the decoders of the format by these laws and never open a run again.
-/

namespace ClassInspect

/-- The fault reports missing bytes, so that more bytes may mend it. -/
def Fault.isEnd : Fault → Bool
  | unexpectedEnd .. => true
  | _ => false

namespace Decoder

/-- The decoder touches its input by reads from the front only, and a fault of its own is never about
missing bytes. -/
class inductive Sequential {α : Type} : Decoder α → Prop where
  | pure (value : α) : Sequential (Pure.pure value)
  | fail (fault : Fault) (hfault : fault.isEnd = false) : Sequential (Decoder.fail fault)
  | read (n : Nat) (next : Bytes → Decoder α) (hnext : ∀ content, Sequential (next content)) :
    Sequential (Decoder.bytes n >>= next)

variable {α β : Type}

instance (value : α) : Sequential (pure value : Decoder α) := .pure value

instance (found : UInt32) : Sequential (fail (.badMagic found) : Decoder α) := .fail _ rfl

instance (tag : UInt8) (index : UInt16) : Sequential (fail (.invalidTag tag index) : Decoder α) := .fail _ rfl

instance (index : UInt16) (expected : Expected) : Sequential (fail (.invalidIndex index expected) : Decoder α) :=
  .fail _ rfl

instance (condition : Prop) [Decidable condition] (yes no : Decoder α) [Sequential yes] [Sequential no] :
    Sequential (if condition then yes else no) := by
  split <;> infer_instance

instance (decoder : Decoder α) (next : α → Decoder β) [hdecoder : Sequential decoder]
    [hnext : ∀ value, Sequential (next value)] : Sequential (decoder >>= next) := by
  induction hdecoder with
  | pure value =>
    rw [pure_bind]
    exact hnext value
  | fail fault hfault => exact .fail fault hfault
  | read n first _ ih =>
    rw [bind_assoc]
    exact .read n _ ih

instance (n : Nat) : Sequential (bytes n) := by
  rw [← bind_pure (bytes n)]
  exact .read n _ fun content => .pure content

instance (width : Nat) : Sequential (number width) := by
  unfold number
  infer_instance

instance : Sequential u1 := by
  unfold u1
  infer_instance

instance : Sequential u2 := by
  unfold u2
  infer_instance

instance : Sequential u4 := by
  unfold u4
  infer_instance

instance : Sequential u8 := by
  unfold u8
  infer_instance

instance (item : Decoder α) [Sequential item] (n : Nat) (done : List α) :
    Sequential (repeatedAfter item n done) := by
  induction n generalizing done with
  | zero => exact .pure _
  | succ n ih =>
    unfold repeatedAfter
    infer_instance

instance (item : Decoder α) [Sequential item] (n : Nat) : Sequential (repeated item n) := by
  unfold repeated
  infer_instance

instance (item : Decoder α) [Sequential item] : Sequential (counted item) := by
  unfold counted
  infer_instance

/-! ### One read

The only place where a decoder meets its bytes. -/

theorem run_pure_ne_error (value : α) (cursor : Cursor) (fault : Fault) :
    (pure value : Decoder α) cursor ≠ .error fault := nofun

theorem run_bind_of_ok {decoder : Decoder α} {cursor moved : Cursor} {value : α}
    (hrun : decoder cursor = .ok (value, moved)) (next : α → Decoder β) :
    (decoder >>= next) cursor = next value moved := by
  change Except.bind (decoder cursor) (fun result => next result.1 result.2) = _
  rw [hrun]
  rfl

theorem run_bind_of_error {decoder : Decoder α} {cursor : Cursor} {fault : Fault}
    (hrun : decoder cursor = .error fault) (next : α → Decoder β) : (decoder >>= next) cursor = .error fault := by
  change Except.bind (decoder cursor) (fun result => next result.1 result.2) = _
  rw [hrun]
  rfl

theorem run_bytes_bind (n : Nat) (next : Bytes → Decoder α) (rest : Bytes) (offset : Nat) :
    (bytes n >>= next) ⟨rest, offset⟩ =
      if n ≤ rest.length then next (rest.take n) ⟨rest.drop n, offset + n⟩
      else .error (.unexpectedEnd offset n) := by
  by_cases hn : n ≤ rest.length
  · have hrun : (bytes n : Decoder Bytes) ⟨rest, offset⟩ = .ok (rest.take n, ⟨rest.drop n, offset + n⟩) :=
      congrFun (if_pos (List.length_take_of_le hn)) _
    rw [run_bind_of_ok hrun, if_pos hn]
  · have hshort : (rest.take n).length ≠ n := by
      rw [List.length_take]
      omega
    have hrun : (bytes n : Decoder Bytes) ⟨rest, offset⟩ = .error (.unexpectedEnd offset n) :=
      congrFun (if_neg hshort) _
    rw [run_bind_of_error hrun, if_neg hn]

theorem run_bytes_bind_of_le {n : Nat} {rest : Bytes} (hn : n ≤ rest.length) (next : Bytes → Decoder α)
    (offset : Nat) :
    (bytes n >>= next) ⟨rest, offset⟩ = next (rest.take n) ⟨rest.drop n, offset + n⟩ := by
  rw [run_bytes_bind, if_pos hn]

theorem run_bytes_bind_of_lt {n : Nat} {rest : Bytes} (hn : rest.length < n) (next : Bytes → Decoder α)
    (offset : Nat) :
    (bytes n >>= next) ⟨rest, offset⟩ = .error (.unexpectedEnd offset n) := by
  rw [run_bytes_bind, if_neg (Nat.not_le_of_lt hn)]

/-! ### What one run tells about all runs -/

/-- The decoder takes exactly `content`, wherever it stands and whatever follows. -/
def Reads (decoder : Decoder α) (content : Bytes) (value : α) : Prop :=
  ∀ (offset : Nat) (tail : Bytes),
    decoder ⟨content ++ tail, offset⟩ = .ok (value, ⟨tail, offset + content.length⟩)

/-- The decoder refuses `content`, wherever it stands and whatever follows. -/
def Refuses (decoder : Decoder α) (content : Bytes) (fault : Fault) : Prop :=
  ∀ (offset : Nat) (tail : Bytes), decoder ⟨content ++ tail, offset⟩ = .error fault

/-- A run that ends well is a reading of the bytes between the two cursors. -/
theorem exists_reads_of_run {decoder : Decoder α} [hdecoder : Sequential decoder] {rest : Bytes} {offset : Nat}
    {value : α} {cursor : Cursor} (hrun : decoder ⟨rest, offset⟩ = .ok (value, cursor)) :
    ∃ content, rest = content ++ cursor.rest ∧ cursor.offset = offset + content.length ∧
      decoder.Reads content value := by
  induction hdecoder generalizing rest offset with
  | pure result =>
    obtain ⟨rfl, rfl⟩ := Prod.mk.inj (Except.ok.inj hrun)
    exact ⟨[], rfl, rfl, fun _ _ => rfl⟩
  | fail fault _ => exact absurd hrun (by simp [fail])
  | read n next _ ih =>
    by_cases hn : n ≤ rest.length
    · rw [run_bytes_bind_of_le hn] at hrun
      obtain ⟨content, hrest, hoffset, hreads⟩ := ih _ hrun
      have htaken : (rest.take n).length = n := by rw [List.length_take, Nat.min_eq_left hn]
      refine ⟨rest.take n ++ content, ?_, ?_, fun start tail => ?_⟩
      · rw [List.append_assoc, ← hrest, List.take_append_drop]
      · rw [hoffset, List.length_append, htaken, Nat.add_assoc]
      · rw [List.append_assoc, run_bytes_bind_of_le (by simp [htaken]), List.take_left' htaken,
          List.drop_left' htaken, hreads, List.length_append, htaken, Nat.add_assoc]
    · rw [run_bytes_bind_of_lt (Nat.lt_of_not_le hn)] at hrun
      exact absurd hrun (by simp)

/-- A run that ends for a reason other than missing bytes is a refusal. -/
theorem refuses_of_run {decoder : Decoder α} [hdecoder : Sequential decoder] {rest : Bytes} {offset : Nat}
    {fault : Fault} (hfault : fault.isEnd = false) (hrun : decoder ⟨rest, offset⟩ = .error fault) :
    decoder.Refuses rest fault := by
  induction hdecoder generalizing rest offset with
  | pure result => exact absurd hrun (run_pure_ne_error result _ _)
  | fail own _ => exact fun _ _ => hrun
  | read n next _ ih =>
    by_cases hn : n ≤ rest.length
    · rw [run_bytes_bind_of_le hn] at hrun
      intro start tail
      rw [run_bytes_bind_of_le (by rw [List.length_append]; omega), List.take_append_of_le_length hn,
        List.drop_append_of_le_length hn]
      exact ih _ hrun _ _
    · rw [run_bytes_bind_of_lt (Nat.lt_of_not_le hn)] at hrun
      rw [← Except.error.inj hrun] at hfault
      exact absurd hfault (by simp [Fault.isEnd])

/-- A run that ends for want of bytes stands at a field that starts inside the input and ends outside. -/
theorem bounds_of_run_end {decoder : Decoder α} [hdecoder : Sequential decoder] {rest : Bytes}
    {offset start wanted : Nat} (hrun : decoder ⟨rest, offset⟩ = .error (.unexpectedEnd start wanted)) :
    offset ≤ start ∧ start ≤ offset + rest.length ∧ offset + rest.length < start + wanted := by
  induction hdecoder generalizing rest offset with
  | pure result => exact absurd hrun (run_pure_ne_error result _ _)
  | fail own hown =>
    rw [Except.error.inj hrun] at hown
    exact absurd hown (by simp [Fault.isEnd])
  | read n next _ ih =>
    by_cases hn : n ≤ rest.length
    · rw [run_bytes_bind_of_le hn] at hrun
      have hbounds := ih _ hrun
      rw [List.length_drop] at hbounds
      omega
    · rw [run_bytes_bind_of_lt (Nat.lt_of_not_le hn)] at hrun
      obtain ⟨rfl, rfl⟩ := Fault.unexpectedEnd.inj (Except.error.inj hrun)
      omega

/-- A run that ends for want of bytes goes on at the field it stands at, once there are more: what it has decided
from the bytes before is decided for every longer input. -/
theorem exists_resume_of_run_end {decoder : Decoder α} [hdecoder : Sequential decoder] {rest : Bytes}
    {offset start wanted : Nat} (hrun : decoder ⟨rest, offset⟩ = .error (.unexpectedEnd start wanted)) :
    ∃ next : Bytes → Decoder α, (∀ content, Sequential (next content)) ∧
      ∀ more, decoder ⟨rest ++ more, offset⟩ = (bytes wanted >>= next) ⟨rest.drop (start - offset) ++ more, start⟩ := by
  induction hdecoder generalizing rest offset with
  | pure result => exact absurd hrun (run_pure_ne_error result _ _)
  | fail own hown =>
    rw [Except.error.inj hrun] at hown
    exact absurd hown (by simp [Fault.isEnd])
  | read n first hfirst ih =>
    by_cases hn : n ≤ rest.length
    · rw [run_bytes_bind_of_le hn] at hrun
      have := hfirst (rest.take n)
      have hstart := (bounds_of_run_end hrun).1
      obtain ⟨next, hnext, hresume⟩ := ih _ hrun
      refine ⟨next, hnext, fun more => ?_⟩
      rw [run_bytes_bind_of_le (by rw [List.length_append]; omega), List.take_append_of_le_length hn,
        List.drop_append_of_le_length hn, hresume, List.drop_drop, show n + (start - (offset + n)) = start - offset by omega]
    · rw [run_bytes_bind_of_lt (Nat.lt_of_not_le hn)] at hrun
      obtain ⟨rfl, rfl⟩ := Fault.unexpectedEnd.inj (Except.error.inj hrun)
      refine ⟨first, hfirst, fun more => ?_⟩
      rw [Nat.sub_self, List.drop_zero]

/-- A run that would take all of its input, on a proper initial part of it, ends for want of bytes inside
the full input. -/
theorem run_cut {decoder : Decoder α} [hdecoder : Sequential decoder] {front back : Bytes} {offset finish : Nat}
    {value : α} (hrun : decoder ⟨front ++ back, offset⟩ = .ok (value, ⟨[], finish⟩)) (hback : back ≠ []) :
    ∃ start wanted, decoder ⟨front, offset⟩ = .error (.unexpectedEnd start wanted) ∧
      start + wanted ≤ offset + (front ++ back).length := by
  induction hdecoder generalizing front offset with
  | pure result =>
    obtain ⟨-, hcursor⟩ := Prod.mk.inj (Except.ok.inj hrun)
    exact absurd (List.append_eq_nil_iff.mp (Cursor.mk.inj hcursor).1).2 hback
  | fail fault _ => exact absurd hrun (by simp [fail])
  | read n next _ ih =>
    by_cases hn : n ≤ front.length
    -- the field lies before the cut: both runs read the same bytes and go on
    · rw [run_bytes_bind_of_le (by rw [List.length_append]; omega), List.take_append_of_le_length hn,
        List.drop_append_of_le_length hn] at hrun
      obtain ⟨start, wanted, hcut, hbound⟩ := ih _ hrun
      refine ⟨start, wanted, ?_, ?_⟩
      · rw [run_bytes_bind_of_le hn, hcut]
      · rw [List.length_append, List.length_drop] at hbound
        rw [List.length_append]
        omega
    -- the field crosses the cut
    · refine ⟨offset, n, run_bytes_bind_of_lt (Nat.lt_of_not_le hn) _ _, ?_⟩
      by_contra hlong
      rw [run_bytes_bind_of_lt (by omega)] at hrun
      exact absurd hrun (by simp)

/-! ### The laws of reading -/

theorem reads_pure_iff {result value : α} {content : Bytes} :
    (pure result : Decoder α).Reads content value ↔ content = [] ∧ value = result := by
  constructor
  · intro hreads
    obtain ⟨hvalue, hcursor⟩ := Prod.mk.inj (Except.ok.inj (hreads 0 []))
    have hcontent : content ++ [] = [] := (Cursor.mk.inj hcursor).1
    exact ⟨by simpa using hcontent, hvalue.symm⟩
  · rintro ⟨rfl, rfl⟩ offset tail
    rfl

theorem not_reads_fail {fault : Fault} {content : Bytes} {value : α} : ¬ (fail fault).Reads content value := by
  intro hreads
  exact absurd (hreads 0 []) (by simp [fail])

theorem reads_bytes_iff {n : Nat} {content value : Bytes} :
    Reads (bytes n) content value ↔ content = value ∧ value.length = n := by
  rw [← bind_pure (bytes n)]
  constructor
  · intro hreads
    have hrun := hreads 0 []
    rw [List.append_nil] at hrun
    by_cases hn : n ≤ content.length
    · rw [run_bytes_bind_of_le hn] at hrun
      obtain ⟨rfl, hcursor⟩ := Prod.mk.inj (Except.ok.inj hrun)
      have hlength : content.length ≤ n := List.drop_eq_nil_iff.mp (Cursor.mk.inj hcursor).1
      exact ⟨(List.take_of_length_le hlength).symm, by rw [List.length_take, Nat.min_eq_left hn]⟩
    · rw [run_bytes_bind_of_lt (Nat.lt_of_not_le hn)] at hrun
      exact absurd hrun (by simp)
  · rintro ⟨rfl, rfl⟩ offset tail
    rw [run_bytes_bind_of_le (by simp), List.take_left, List.drop_left]
    rfl

/-- A sequence reads what its first part reads and then what the rest reads. -/
theorem reads_bind_iff {decoder : Decoder α} {next : α → Decoder β} [Sequential decoder]
    [∀ first, Sequential (next first)] {content : Bytes} {value : β} :
    (decoder >>= next).Reads content value ↔
      ∃ first front, decoder.Reads front first ∧ ∃ back, (next first).Reads back value ∧ content = front ++ back := by
  constructor
  · intro hreads
    have hrun := hreads 0 []
    rw [List.append_nil] at hrun
    cases hfirst : decoder ⟨content, 0⟩ with
    | error fault =>
      rw [run_bind_of_error hfirst] at hrun
      exact absurd hrun (by simp)
    | ok result =>
      rw [run_bind_of_ok hfirst] at hrun
      obtain ⟨front, hcontent, -, hfront⟩ := exists_reads_of_run hfirst
      obtain ⟨back, hback, -, hreadsBack⟩ := exists_reads_of_run hrun
      rw [List.append_nil] at hback
      exact ⟨result.1, front, hfront, back, hreadsBack, by rw [hcontent, hback]⟩
  · rintro ⟨first, front, hfront, back, hback, rfl⟩ offset tail
    rw [List.append_assoc, run_bind_of_ok (hfront offset (back ++ tail)), hback, List.length_append, Nat.add_assoc]

theorem reads_number_iff {width value : Nat} {content : Bytes} :
    Reads (number width) content value ↔ value < 256 ^ width ∧ content = BigEndian.ofNat width value := by
  rw [← BigEndian.length_eq_and_toNat_eq_iff, number, reads_bind_iff]
  simp only [reads_bytes_iff, reads_pure_iff]
  constructor
  · rintro ⟨taken, front, ⟨rfl, hlength⟩, back, ⟨rfl, rfl⟩, rfl⟩
    rw [List.append_nil]
    exact ⟨hlength, rfl⟩
  · rintro ⟨hlength, rfl⟩
    exact ⟨content, content, ⟨rfl, hlength⟩, [], ⟨rfl, rfl⟩, (List.append_nil content).symm⟩

/-- The decoder reads exactly the layouts of the values that fit. -/
def Inverts (decoder : Decoder α) (layout : α → Bytes) (fits : α → Prop) : Prop :=
  ∀ content value, decoder.Reads content value ↔ fits value ∧ content = layout value

theorem reads_repeatedAfter_iff {item : Decoder α} [Sequential item] {layout : α → Bytes} {fits : α → Prop}
    (hitem : item.Inverts layout fits) {n : Nat} {done values : List α} {content : Bytes} :
    (repeatedAfter item n done).Reads content values ↔
      ∃ items, (items.length = n ∧ ∀ value ∈ items, fits value) ∧ content = items.flatMap layout ∧
        values = done.reverse ++ items := by
  induction n generalizing done content with
  | zero =>
    rw [repeatedAfter, reads_pure_iff]
    constructor
    · rintro ⟨rfl, rfl⟩
      exact ⟨[], by simp, rfl, (List.append_nil _).symm⟩
    · rintro ⟨items, ⟨hlength, -⟩, rfl, rfl⟩
      rw [List.eq_nil_of_length_eq_zero hlength]
      exact ⟨rfl, List.append_nil _⟩
  | succ n ih =>
    rw [repeatedAfter, reads_bind_iff]
    simp only [ih, hitem _ _, List.reverse_cons, List.append_assoc, List.singleton_append]
    constructor
    · rintro ⟨first, front, ⟨hfirst, rfl⟩, back, ⟨items, ⟨rfl, hitems⟩, rfl, rfl⟩, rfl⟩
      exact ⟨first :: items, ⟨rfl, List.forall_mem_cons.mpr ⟨hfirst, hitems⟩⟩, rfl, rfl⟩
    · rintro ⟨items, ⟨hlength, hitems⟩, rfl, rfl⟩
      obtain ⟨first, others, rfl⟩ := List.exists_cons_of_length_eq_add_one hlength
      obtain ⟨hfirst, hothers⟩ := List.forall_mem_cons.mp hitems
      exact ⟨first, layout first, ⟨hfirst, rfl⟩, others.flatMap layout,
        ⟨others, ⟨Nat.succ.inj hlength, hothers⟩, rfl, rfl⟩, rfl⟩

theorem reads_repeated_iff {item : Decoder α} [Sequential item] {layout : α → Bytes} {fits : α → Prop}
    (hitem : item.Inverts layout fits) {n : Nat} {values : List α} {content : Bytes} :
    (repeated item n).Reads content values ↔
      (values.length = n ∧ ∀ value ∈ values, fits value) ∧ content = values.flatMap layout := by
  rw [repeated, reads_repeatedAfter_iff hitem]
  constructor
  · rintro ⟨items, hitems, hcontent, rfl⟩
    exact ⟨hitems, hcontent⟩
  · rintro ⟨hvalues, hcontent⟩
    exact ⟨values, hvalues, hcontent, rfl⟩

/-! ### The laws of refusing -/

/-- Enough further bytes mend every complaint about missing ones, so a refusal is about something else. -/
theorem Refuses.isEnd_eq_false {decoder : Decoder α} [Sequential decoder] {content : Bytes} {fault : Fault}
    (hrefuses : decoder.Refuses content fault) : fault.isEnd = false := by
  cases fault with
  | unexpectedEnd start wanted =>
    have hbounds := bounds_of_run_end (hrefuses 0 (List.replicate (start + wanted) 0))
    rw [List.length_append, List.length_replicate] at hbounds
    omega
  | _ => rfl

theorem refuses_fail_iff {own fault : Fault} {content : Bytes} :
    (fail own : Decoder α).Refuses content fault ↔ fault = own := by
  constructor
  · intro hrefuses
    exact (Except.error.inj (hrefuses 0 [])).symm
  · rintro rfl offset tail
    rfl

/-- A sequence refuses where its first part refuses, or where the rest refuses behind what the first part
read. -/
theorem refuses_bind_iff {decoder : Decoder α} {next : α → Decoder β} [Sequential decoder]
    [∀ first, Sequential (next first)] {content : Bytes} {fault : Fault} :
    (decoder >>= next).Refuses content fault ↔
      decoder.Refuses content fault ∨
        ∃ first front, decoder.Reads front first ∧
          ∃ back, (next first).Refuses back fault ∧ content = front ++ back := by
  constructor
  · intro hrefuses
    have hfault := hrefuses.isEnd_eq_false
    have hrun := hrefuses 0 []
    rw [List.append_nil] at hrun
    cases hfirst : decoder ⟨content, 0⟩ with
    | error own =>
      rw [run_bind_of_error hfirst] at hrun
      rw [Except.error.inj hrun] at hfirst
      exact Or.inl (refuses_of_run hfault hfirst)
    | ok result =>
      rw [run_bind_of_ok hfirst] at hrun
      obtain ⟨front, hcontent, -, hfront⟩ := exists_reads_of_run hfirst
      exact Or.inr ⟨result.1, front, hfront, result.2.rest, refuses_of_run hfault hrun, hcontent⟩
  · rintro (hdecoder | ⟨first, front, hfront, back, hback, rfl⟩) offset tail
    · exact run_bind_of_error (hdecoder offset tail) next
    · rw [List.append_assoc, run_bind_of_ok (hfront offset (back ++ tail))]
      exact hback _ _

/-- Only missing bytes can stop the decoder. -/
class Accepting (decoder : Decoder α) : Prop where
  sequential : Sequential decoder
  not_refuses (content : Bytes) (fault : Fault) : ¬ decoder.Refuses content fault

instance (value : α) : Accepting (pure value : Decoder α) where
  sequential := inferInstance
  not_refuses _ fault hrefuses := run_pure_ne_error value _ fault (hrefuses 0 [])

instance (n : Nat) : Accepting (bytes n) where
  sequential := inferInstance
  not_refuses content fault hrefuses := by
    have hrun := hrefuses 0 (List.replicate n 0)
    rw [← bind_pure (bytes n), run_bytes_bind_of_le (by simp)] at hrun
    exact run_pure_ne_error _ _ fault hrun

instance (decoder : Decoder α) (next : α → Decoder β) [hdecoder : Accepting decoder]
    [hnext : ∀ first, Accepting (next first)] : Accepting (decoder >>= next) := by
  have := hdecoder.sequential
  have := fun first => (hnext first).sequential
  refine ⟨inferInstance, fun content fault hrefuses => ?_⟩
  rcases refuses_bind_iff.mp hrefuses with hfirst | ⟨first, _, _, back, hback, _⟩
  · exact hdecoder.not_refuses content fault hfirst
  · exact (hnext first).not_refuses back fault hback

instance (width : Nat) : Accepting (number width) := by
  unfold number
  infer_instance

instance : Accepting u1 := by
  unfold u1
  infer_instance

instance : Accepting u2 := by
  unfold u2
  infer_instance

instance : Accepting u4 := by
  unfold u4
  infer_instance

instance : Accepting u8 := by
  unfold u8
  infer_instance

instance (item : Decoder α) [Accepting item] (n : Nat) (done : List α) :
    Accepting (repeatedAfter item n done) := by
  induction n generalizing done with
  | zero =>
    unfold repeatedAfter
    infer_instance
  | succ n ih =>
    unfold repeatedAfter
    infer_instance

instance (item : Decoder α) [Accepting item] (n : Nat) : Accepting (repeated item n) := by
  unfold repeated
  infer_instance

instance (item : Decoder α) [Accepting item] : Accepting (counted item) := by
  unfold counted
  infer_instance

theorem refuses_bind_iff_left {decoder : Decoder α} {next : α → Decoder β} [Sequential decoder]
    [∀ first, Sequential (next first)] [∀ first, Accepting (next first)] {content : Bytes} {fault : Fault} :
    (decoder >>= next).Refuses content fault ↔ decoder.Refuses content fault := by
  rw [refuses_bind_iff, or_iff_left]
  rintro ⟨first, front, -, back, hback, -⟩
  exact Accepting.not_refuses back fault hback

theorem refuses_bind_iff_right {decoder : Decoder α} {next : α → Decoder β} [Sequential decoder]
    [∀ first, Sequential (next first)] [Accepting decoder] {content : Bytes} {fault : Fault} :
    (decoder >>= next).Refuses content fault ↔
      ∃ first front, decoder.Reads front first ∧ ∃ back, (next first).Refuses back fault ∧ content = front ++ back := by
  rw [refuses_bind_iff, or_iff_right (Accepting.not_refuses content fault)]

end Decoder

end ClassInspect
