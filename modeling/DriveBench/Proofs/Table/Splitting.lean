import DriveBench.Table.Record
import Mathlib.Data.List.TakeWhile

/-!
# How a file splits into records

A grammar of comma-separated files, beside the scanner that reads them. `IsFile
bytes records` holds of exactly one list of records for any bytes, the one that
the scanner finds.
-/

namespace DriveBench.Table

open Scanner (isComma isLineEnd isMark)

-- ---------------------------------------------------------------------------
-- The grammar
-- ---------------------------------------------------------------------------

def Position.past (p : Position) (bytes : List UInt8) : Position := bytes.foldl Position.next p

def endsField (b : UInt8) : Bool := isComma b || isLineEnd b

def Plain (bytes : List UInt8) : Prop := ∀ b ∈ bytes, endsField b = false

def Unmarked (bytes : List UInt8) : Prop := ∀ b, bytes.head? = some b → isMark b = false

def doubled (content : List UInt8) : List UInt8 :=
  content.flatMap fun b => if isMark b then [b, b] else [b]

/-- The ways to write a field. What follows a closing mark belongs to the
content as it stands. -/
inductive Written : (text content : List UInt8) → Prop
  | bare (plain : Plain text) (unmarked : Unmarked text) : Written text text
  | quoted (plain : Plain tail) (unmarked : Unmarked tail) :
    Written (34 :: (doubled content ++ 34 :: tail)) (content ++ tail)

/-- A line as it is written, with its fields. It is closed unless its last
field lacks the second quotation mark, which only the end of a file forgives. -/
inductive Line : (closed : Bool) → (text : List UInt8) → (fields : List (List UInt8)) → Prop
  | last (field : Written text content) : Line true text [content]
  | unclosed : Line false (34 :: doubled content) [content]
  | more (field : Written text content) (rest : Line closed others fields) :
    Line closed (text ++ 44 :: others) (content :: fields)

/-- Lines and line ends from `here` on, where the record before ended at
`start`. -/
inductive Splits : (start here : Position) → List UInt8 → List Record → Prop
  | nil : Splits start here [] []
  | blank (lineEnd : isLineEnd b = true) (rest : Splits start (here.next b) bytes found) :
    Splits start here (b :: bytes) found
  | record (line : Line true text fields) (nonempty : text ≠ []) (lineEnd : isLineEnd b = true)
    (rest : Splits (here.past (text ++ [b])) (here.past (text ++ [b])) bytes found) :
    Splits start here (text ++ b :: bytes) (⟨start, fields⟩ :: found)
  | final (line : Line closed text fields) (nonempty : text ≠ []) :
    Splits start here text [⟨start, fields⟩]

inductive IsFile : List UInt8 → List Record → Prop
  | marked (rest : Splits ⟨1, 0⟩ ⟨1, 3⟩ bytes found) : IsFile (0xEF :: 0xBB :: 0xBF :: bytes) found
  | unmarked (plain : ¬ [0xEF, 0xBB, 0xBF] <+: bytes) (rest : Splits ⟨1, 0⟩ ⟨1, 0⟩ bytes found) :
    IsFile bytes found

@[simp] theorem Position.past_nil (p : Position) : p.past [] = p := rfl

@[simp] theorem Position.past_cons (p : Position) (b : UInt8) (bytes : List UInt8) :
    p.past (b :: bytes) = (p.next b).past bytes := rfl

theorem Position.past_append (p : Position) (front back : List UInt8) :
    p.past (front ++ back) = (p.past front).past back := List.foldl_append

theorem doubled_mark (content : List UInt8) : doubled (34 :: content) = 34 :: 34 :: doubled content :=
  rfl

theorem doubled_other {b : UInt8} (hb : isMark b = false) (content : List UInt8) :
    doubled (b :: content) = b :: doubled content := by
  simp [doubled, hb]

-- ---------------------------------------------------------------------------
-- The scanner reads what the grammar writes
-- ---------------------------------------------------------------------------

namespace Scanner

theorem eq_mark {b : UInt8} (hb : isMark b = true) : b = 34 := by simpa [isMark] using hb

structure Reads (s t : Scanner) (text : List UInt8) (fields : List (List UInt8)) : Prop where
  fields : (t.field.reverse :: t.fields).reverse = s.fields.reverse ++ fields
  start : t.start = s.start
  here : t.here = s.here.past text
  records : t.records = s.records
  mode : t.mode = .between → s.mode = .between ∧ text = []

def Ready (s : Scanner) : Prop := s.field = [] ∧ (s.mode = .between ∨ s.mode = .opening)

theorem run_plain {s : Scanner} {text : List UInt8} (plain : Plain text) (mode : s.mode = .bare) :
    s.run text = { s with field := text.reverse ++ s.field, here := s.here.past text } := by
  induction text generalizing s with
  | nil => rfl
  | cons b text ih =>
    have hb : isComma b = false ∧ isLineEnd b = false := by
      simpa [endsField] using plain b List.mem_cons_self
    have hstep : s.step b = s.push .bare b := by
      simp [step, mode, Scanner.plain, hb.1, hb.2]
    have rest : Plain text := fun c hc => plain c (List.mem_cons_of_mem b hc)
    rw [run_cons, hstep, ih rest rfl]
    simp [push, mode]

theorem run_unmarked {s : Scanner} {text : List UInt8} (plain : Plain text)
    (unmarked : Unmarked text) (mode : s.mode ≠ .quoted) :
    ∃ m, m ≠ .quoted ∧ (m = .between → s.mode = .between ∧ text = []) ∧
      s.run text = { s with mode := m, field := text.reverse ++ s.field, here := s.here.past text } := by
  cases text with
  | nil => exact ⟨s.mode, mode, fun h => ⟨h, rfl⟩, rfl⟩
  | cons b text =>
    have hb : isComma b = false ∧ isLineEnd b = false := by
      simpa [endsField] using plain b List.mem_cons_self
    have hmark : isMark b = false := unmarked b rfl
    have rest : Plain text := fun c hc => plain c (List.mem_cons_of_mem b hc)
    have hstep : s.step b = s.push .bare b := by
      cases hm : s.mode with
      | quoted => exact absurd hm mode
      | between | opening | bare | marked =>
        simp [step, hm, first, Scanner.plain, hmark, hb.1, hb.2]
    refine ⟨.bare, by simp, by simp, ?_⟩
    rw [run_cons, hstep, run_plain rest rfl]
    simp [push]

theorem run_doubled {s : Scanner} (content : List UInt8) (mode : s.mode = .quoted) :
    s.run (doubled content) =
      { s with field := content.reverse ++ s.field, here := s.here.past (doubled content) } := by
  induction content generalizing s with
  | nil => rfl
  | cons b content ih =>
    cases hb : isMark b with
    | true =>
      obtain rfl := eq_mark hb
      have hstep : (s.step 34).step 34 = (s.skip .marked 34).push .quoted 34 := by
        simp [step, mode, skip, isMark]
      rw [doubled_mark, run_cons, run_cons, hstep, ih rfl]
      simp [push, skip, mode]
    | false =>
      have hstep : s.step b = s.push .quoted b := by simp [step, mode, hb]
      rw [doubled_other hb, run_cons, hstep, ih rfl]
      simp [push, mode]

theorem step_mark {s : Scanner} (ready : s.Ready) : s.step 34 = s.skip .quoted 34 := by
  rcases ready.2 with mode | mode <;> simp [step, mode, first, isMark, isLineEnd]

theorem run_written {s : Scanner} {text content : List UInt8} (ready : s.Ready)
    (written : Written text content) :
    ∃ m, m ≠ .quoted ∧ (m = .between → s.mode = .between ∧ text = []) ∧
      s.run text = { s with mode := m, field := content.reverse, here := s.here.past text } := by
  cases written with
  | bare plain unmarked =>
    have mode : s.mode ≠ .quoted := by rcases ready.2 with h | h <;> simp [h]
    obtain ⟨m, hm, between, hrun⟩ := run_unmarked plain unmarked mode
    exact ⟨m, hm, between, by simpa [ready.1] using hrun⟩
  | @quoted tail content plain unmarked =>
    have opened : s.run (34 :: doubled content) =
        { s with mode := .quoted, field := content.reverse, here := s.here.past (34 :: doubled content) } := by
      rw [run_cons, step_mark ready, run_doubled content rfl]
      simp [skip, ready.1]
    have closing : ∀ t : Scanner, t.mode = .quoted → t.step 34 = t.skip .marked 34 := by
      intro t ht
      simp [step, ht, isMark]
    obtain ⟨m, hm, between, hrun⟩ := run_unmarked (s := (s.run (34 :: doubled content)).skip .marked 34)
      plain unmarked (by simp [skip])
    refine ⟨m, hm, fun h => by simpa [skip] using (between h).1, ?_⟩
    rw [← List.cons_append, run_append, run_cons, closing _ (by simp [opened]), hrun, opened]
    simp [skip, Position.past_append]

theorem step_comma {s : Scanner} (mode : s.mode ≠ .quoted) : s.step 44 = s.endField 44 := by
  cases hm : s.mode with
  | quoted => exact absurd hm mode
  | between | opening | bare | marked =>
    simp [step, hm, first, Scanner.plain, isMark, isComma, isLineEnd]

theorem step_lineEnd {s : Scanner} (quoted : s.mode ≠ .quoted) (between : s.mode ≠ .between)
    (lineEnd : isLineEnd b = true) : s.step b = s.endRecord b := by
  have hb : isMark b = false ∧ isComma b = false := by
    simp only [isLineEnd, Bool.or_eq_true, beq_iff_eq] at lineEnd
    rcases lineEnd with rfl | rfl <;> decide
  cases hm : s.mode with
  | quoted => exact absurd hm quoted
  | between => exact absurd hm between
  | opening | bare | marked => simp [step, hm, first, Scanner.plain, hb.1, hb.2, lineEnd]

theorem reads_line {s : Scanner} {fields : List (List UInt8)} (ready : s.Ready) (line : Line closed text fields) :
    Reads s (s.run text) text fields ∧ (closed = true → (s.run text).mode ≠ .quoted) := by
  induction line generalizing s with
  | last written =>
    obtain ⟨m, hm, between, hrun⟩ := run_written ready written
    rw [hrun]
    exact ⟨⟨by simp, rfl, rfl, rfl, between⟩, fun _ => hm⟩
  | @unclosed content =>
    rw [run_cons, step_mark ready, run_doubled content rfl]
    refine ⟨⟨by simp [skip, ready.1], rfl, rfl, rfl, ?_⟩, by simp⟩
    simp [skip]
  | @more text content closed others fields written _ ih =>
    obtain ⟨m, hm, -, hrun⟩ := run_written ready written
    have next : (s.run text).step 44 = (s.run text).endField 44 := step_comma (by simpa [hrun] using hm)
    have hready : ((s.run text).endField 44).Ready := ⟨rfl, .inr rfl⟩
    obtain ⟨⟨hfields, hstart, hhere, hrecords, hmode⟩, hclosed⟩ := ih hready
    rw [run_append, run_cons, next]
    refine ⟨⟨?_, ?_, ?_, ?_, ?_⟩, hclosed⟩
    · rw [hfields, hrun]
      simp [endField]
    · rw [hstart, hrun]
      rfl
    · rw [hhere, hrun]
      simp [endField, Position.past_append]
    · rw [hrecords, hrun]
      rfl
    · intro h
      simpa [endField] using (hmode h).1

def idle (start here : Position) (found : List Record) : Scanner :=
  ⟨.between, [], [], start, here, found⟩

theorem ready_idle (start here : Position) (found : List Record) : (idle start here found).Ready := ⟨rfl, .inl rfl⟩

theorem finish_idle (start here : Position) (found : List Record) :
    (idle start here found).finish = found.reverse := rfl

theorem step_idle (lineEnd : isLineEnd b = true) (start here : Position) (found : List Record) :
    (idle start here found).step b = idle start (here.next b) found := by
  simp [step, idle, lineEnd, skip]

theorem run_line {fields : List (List UInt8)} (line : Line true text fields) (nonempty : text ≠ [])
    (lineEnd : isLineEnd b = true) (start here : Position) (found : List Record) :
    (idle start here found).run (text ++ [b]) =
      idle (here.past (text ++ [b])) (here.past (text ++ [b])) (⟨start, fields⟩ :: found) := by
  obtain ⟨reads, closed⟩ := reads_line (ready_idle start here found) line
  have between : ((idle start here found).run text).mode ≠ .between := fun h =>
    nonempty (reads.mode h).2
  rw [run_append, run_cons, run_nil, step_lineEnd (closed rfl) between lineEnd, endRecord,
    reads.fields, reads.start, reads.here, reads.records]
  simp [idle, Position.past_append]

theorem run_splits {start here : Position} {more : List Record} (splits : Splits start here bytes more)
    (found : List Record) : ((idle start here found).run bytes).finish = found.reverse ++ more := by
  induction splits generalizing found with
  | nil => simp [finish_idle]
  | blank lineEnd _ ih => rw [run_cons, step_idle lineEnd, ih]
  | @record text fields b bytes more start here line nonempty lineEnd _ ih =>
    rw [List.append_cons, run_append, run_line line nonempty lineEnd, ih]
    simp
  | @final closed text fields start here line nonempty =>
    obtain ⟨reads, -⟩ := reads_line (ready_idle start here found) line
    have between : ((idle start here found).run text).mode ≠ .between := fun h =>
      nonempty (reads.mode h).2
    have opened : ((idle start here found).run text).open? = some ⟨start, fields⟩ := by
      have hfields := reads.fields
      have hstart := reads.start
      unfold open?
      split
      · contradiction
      · simp_all [idle]
    rw [finish, opened, reads.records]
    simp [idle]

end Scanner

-- ---------------------------------------------------------------------------
-- The grammar writes every file
-- ---------------------------------------------------------------------------

def AfterField (rest : List UInt8) : Prop := ∀ b, rest.head? = some b → endsField b = true

theorem exists_plain (bytes : List UInt8) :
    ∃ text rest, bytes = text ++ rest ∧ Plain text ∧ AfterField rest := by
  refine ⟨bytes.takeWhile (!endsField ·), bytes.dropWhile (!endsField ·),
    List.takeWhile_append_dropWhile.symm, ?_, ?_⟩
  · intro b hb
    simpa using List.mem_takeWhile_imp hb
  · intro b hb
    have := List.head?_dropWhile_not (!endsField ·) bytes
    simpa [hb] using this

theorem Unmarked.of_append (h : Unmarked (text ++ rest)) : Unmarked text := by
  cases text with
  | nil => simp [Unmarked]
  | cons b text => exact h

/-- Bytes after an opening mark: all quoted, or quoted up to a mark that is not
one of two. -/
theorem exists_doubled (bytes : List UInt8) :
    (∃ content, bytes = doubled content) ∨
      ∃ content tail, bytes = doubled content ++ 34 :: tail ∧ Unmarked tail := by
  match bytes with
  | [] => exact .inl ⟨[], rfl⟩
  | b :: rest =>
    cases hb : isMark b with
    | false =>
      rcases exists_doubled rest with ⟨content, rfl⟩ | ⟨content, tail, rfl, unmarked⟩
      · exact .inl ⟨b :: content, (doubled_other hb content).symm⟩
      · exact .inr ⟨b :: content, tail, by simp [doubled_other hb], unmarked⟩
    | true =>
      obtain rfl := Scanner.eq_mark hb
      match rest with
      | [] => exact .inr ⟨[], [], rfl, by simp [Unmarked]⟩
      | c :: rest =>
        cases hc : isMark c with
        | false => exact .inr ⟨[], c :: rest, rfl, by simpa [Unmarked] using hc⟩
        | true =>
          obtain rfl := Scanner.eq_mark hc
          rcases exists_doubled rest with ⟨content, rfl⟩ | ⟨content, tail, rfl, unmarked⟩
          · exact .inl ⟨34 :: content, doubled_mark content⟩
          · exact .inr ⟨34 :: content, tail, by simp [doubled_mark], unmarked⟩

theorem exists_written (bytes : List UInt8) :
    (∃ content, bytes = 34 :: doubled content) ∨
      ∃ text content rest, bytes = text ++ rest ∧ Written text content ∧ AfterField rest := by
  by_cases hmark : bytes.head? = some 34
  · obtain ⟨inside, rfl⟩ := List.head?_eq_some_iff.1 hmark
    rcases exists_doubled inside with ⟨content, rfl⟩ | ⟨content, tail, rfl, unmarked⟩
    · exact .inl ⟨content, rfl⟩
    · obtain ⟨text, rest, rfl, plain, after⟩ := exists_plain tail
      refine .inr ⟨34 :: (doubled content ++ 34 :: text), content ++ text, rest, by simp, ?_, after⟩
      exact .quoted plain unmarked.of_append
  · obtain ⟨text, rest, rfl, plain, after⟩ := exists_plain bytes
    have unmarked : Unmarked (text ++ rest) := by
      intro b hb
      cases hm : isMark b with
      | false => rfl
      | true => exact absurd (Scanner.eq_mark hm ▸ hb) hmark
    exact .inr ⟨text, text, rest, rfl, .bare plain unmarked.of_append, after⟩

theorem exists_line (bytes : List UInt8) :
    (∃ closed fields, Line closed bytes fields) ∨
      ∃ text fields b rest, bytes = text ++ b :: rest ∧ Line true text fields ∧ isLineEnd b = true := by
  rcases exists_written bytes with ⟨content, rfl⟩ | ⟨text, content, rest, hbytes, written, after⟩
  · exact .inl ⟨false, [content], .unclosed⟩
  · match rest with
    | [] => exact .inl ⟨true, [content], by simpa [hbytes] using Line.last written⟩
    | b :: rest =>
      have hb : isComma b = true ∨ isLineEnd b = true := by simpa [endsField] using after b rfl
      rcases hb with hcomma | hend
      · obtain rfl : b = 44 := by simpa [isComma] using hcomma
        have shorter : rest.length < bytes.length := by simp [hbytes]; omega
        rcases exists_line rest with ⟨closed, fields, line⟩ | ⟨others, fields, c, rest, rfl, line, hc⟩
        · exact .inl ⟨closed, content :: fields, hbytes ▸ .more written line⟩
        · exact .inr ⟨text ++ 44 :: others, content :: fields, c, rest, by simp [hbytes],
            .more written line, hc⟩
      · exact .inr ⟨text, [content], b, rest, hbytes, .last written, hend⟩
termination_by bytes.length

theorem exists_splits (bytes : List UInt8) (start here : Position) :
    ∃ records, Splits start here bytes records := by
  match hbytes : bytes with
  | [] => exact ⟨[], .nil⟩
  | b :: rest =>
    cases hb : isLineEnd b with
    | true =>
      obtain ⟨records, splits⟩ := exists_splits rest start (here.next b)
      exact ⟨records, .blank hb splits⟩
    | false =>
      rcases exists_line (b :: rest) with ⟨closed, fields, line⟩ | ⟨text, fields, c, rest', heq, line, hc⟩
      · exact ⟨_, .final line (by simp)⟩
      · have nonempty : text ≠ [] := by
          rintro rfl
          obtain ⟨rfl, -⟩ : b = c ∧ rest = rest' := by simpa using heq
          simp [hb] at hc
        have shorter : rest'.length ≤ rest.length := by
          have hlength := congrArg List.length heq
          rw [List.length_cons, List.length_append, List.length_cons] at hlength
          omega
        obtain ⟨records, splits⟩ :=
          exists_splits rest' (here.past (text ++ [c])) (here.past (text ++ [c]))
        exact ⟨_, heq ▸ Splits.record line nonempty hc splits⟩
termination_by bytes.length

-- ---------------------------------------------------------------------------
-- Both together
-- ---------------------------------------------------------------------------

theorem dropMark_of_not (plain : ¬ [0xEF, 0xBB, 0xBF] <+: bytes) : dropMark bytes = (0, bytes) := by
  unfold dropMark
  split
  · exact absurd ⟨_, rfl⟩ plain
  · rfl

theorem records_eq (file : IsFile bytes found) : records bytes = found := by
  cases file with
  | marked splits => exact Scanner.run_splits splits []
  | unmarked plain splits =>
    rw [records, dropMark_of_not plain]
    exact Scanner.run_splits splits []

theorem exists_isFile (bytes : List UInt8) : ∃ found, IsFile bytes found := by
  by_cases h : [0xEF, 0xBB, 0xBF] <+: bytes
  · obtain ⟨rest, rfl⟩ := h
    obtain ⟨found, splits⟩ := exists_splits rest ⟨1, 0⟩ ⟨1, 3⟩
    exact ⟨found, .marked splits⟩
  · obtain ⟨found, splits⟩ := exists_splits bytes ⟨1, 0⟩ ⟨1, 0⟩
    exact ⟨found, .unmarked h splits⟩

/-- Every file splits in exactly one way, and the scanner finds it. -/
theorem isFile_iff : IsFile bytes found ↔ records bytes = found := by
  constructor
  · exact records_eq
  · rintro rfl
    obtain ⟨found, file⟩ := exists_isFile bytes
    exact records_eq file ▸ file

end DriveBench.Table
