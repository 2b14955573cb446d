import Mathlib.Data.List.Induction
import TableGateway.Proofs.Logging.Rolling

/-!
# Sizes of log files

A file of a log stays below the limit unless a single message fills it. This takes a clock that
moves on: files are told apart by the millisecond in which they were opened, and a file that is
opened again may have grown before.
-/

namespace TableGateway

/-! ## Stamps -/

namespace Number

variable {width m n : Nat} {rest rest' : List Char}

theorem ofDigitChars_padded (width n : Nat) : Nat.ofDigitChars 10 (padded width n) 0 = n := by
  rw [padded, Nat.ofDigitChars_append, Nat.ofDigitChars_replicate_zero, Nat.mul_zero,
    Nat.ofDigitChars_ten_toDigits]

theorem padded_injective (h : padded width m = padded width n) : m = n := by
  rw [← ofDigitChars_padded width m, h, ofDigitChars_padded]

theorem length_padded (hwidth : 0 < width) (h : n < tenTo width) :
    (padded width n).length = width := by
  have hdigits : (Nat.toDigits 10 n).length ≤ width :=
    (Nat.length_toDigits_le_iff (by decide) hwidth).mpr h
  rw [padded, List.length_append, List.length_replicate]
  exact Nat.sub_add_cancel hdigits

/-- Numbers of a fixed width in front of two equal texts are equal. -/
theorem padded_append_injective (hwidth : 0 < width) (hm : m < tenTo width) (hn : n < tenTo width)
    (h : padded width m ++ rest = padded width n ++ rest') : m = n ∧ rest = rest' := by
  have hlength : (padded width m).length = (padded width n).length := by
    rw [length_padded hwidth hm, length_padded hwidth hn]
  obtain ⟨hpadded, hrest⟩ := List.append_inj h hlength
  exact ⟨padded_injective hpadded, hrest⟩

end Number

open Number Calendar

theorem Calendar.monthLength_le (year month : Nat) : monthLength year month ≤ 31 := by
  have hall : ∀ length ∈ monthLengths year, length ≤ 31 := by
    unfold monthLengths
    split <;> decide
  rw [monthLength, List.getD_eq_getElem?_getD]
  cases hlength : (monthLengths year)[month - 1]? with
  | none => exact Nat.zero_le 31
  | some length => exact hall length (List.mem_of_getElem? hlength)

namespace Moment

def isValid (m : Moment) : Bool :=
  m.date.isValid && m.hour < 24 && m.minute < 60 && m.second < 60 && m.microsecond < 1000000

/-- The number of whole milliseconds up to a moment, counted from the day before year one. -/
def milliseconds (m : Moment) : Int :=
  (m.date.ordinal * 86400 + m.secondOfDay) * 1000 + (m.microsecond / 1000 : Nat)

def stampTail (m : Moment) : List Char :=
  padded 2 m.date.month ++ (padded 2 m.date.day ++ '-' :: (padded 2 m.hour ++
    (padded 2 m.minute ++ (padded 2 m.second ++ '-' :: padded 3 (m.microsecond / 1000)))))

/-- Every number in a stamp but the year has its fixed width. -/
structure IsNarrow (m : Moment) : Prop where
  month : m.date.month < 100
  day : m.date.day < 100
  hour : m.hour < 100
  minute : m.minute < 100
  second : m.second < 100
  millisecond : m.microsecond / 1000 < 1000

variable {a b m : Moment}

theorem isNarrow_of_isValid (h : m.isValid) : m.IsNarrow := by
  have hday := monthLength_le m.date.year m.date.month
  simp only [isValid, Date.isValid, Bool.and_eq_true, decide_eq_true_eq] at h
  constructor <;> omega

theorem toList_stamp (m : Moment) : m.stamp.toList = padded 1 m.date.year ++ m.stampTail := by
  simp [stamp, stampTail]

theorem IsNarrow.length_stampTail (h : m.IsNarrow) : m.stampTail.length = 15 := by
  simp only [stampTail, List.length_append, List.length_cons,
    length_padded Nat.zero_lt_two h.month, length_padded Nat.zero_lt_two h.day,
    length_padded Nat.zero_lt_two h.hour, length_padded Nat.zero_lt_two h.minute,
    length_padded Nat.zero_lt_two h.second, length_padded (Nat.zero_lt_succ 2) h.millisecond]

/-- Moments with one stamp lie in one millisecond. -/
theorem milliseconds_eq_of_stamp_eq (ha : a.isValid) (hb : b.isValid) (h : a.stamp = b.stamp) :
    a.milliseconds = b.milliseconds := by
  have ha := isNarrow_of_isValid ha
  have hb := isNarrow_of_isValid hb
  have htext := congrArg String.toList h
  -- The year may have any number of digits, so the texts are compared from their ends first.
  rw [toList_stamp, toList_stamp] at htext
  obtain ⟨hyear, htail⟩ :=
    List.append_inj' htext (ha.length_stampTail.trans hb.length_stampTail.symm)
  obtain ⟨hmonth, htail⟩ := padded_append_injective (by decide) ha.month hb.month htail
  obtain ⟨hday, htail⟩ := padded_append_injective (by decide) ha.day hb.day htail
  obtain ⟨hhour, htail⟩ :=
    padded_append_injective (by decide) ha.hour hb.hour (List.cons.inj htail).2
  obtain ⟨hminute, htail⟩ := padded_append_injective (by decide) ha.minute hb.minute htail
  obtain ⟨hsecond, htail⟩ := padded_append_injective (by decide) ha.second hb.second htail
  have hmillisecond := padded_injective (List.cons.inj htail).2
  have hyear := padded_injective hyear
  simp only [milliseconds, secondOfDay, Date.ordinal, hyear, hmonth, hday, hhour, hminute, hsecond,
    hmillisecond]

end Moment

theorem RollingLog.milliseconds_eq_of_fileName_eq {name : String} {a b : Moment} (ha : a.isValid)
    (hb : b.isValid) (h : fileName name a = fileName name b) :
    a.milliseconds = b.milliseconds := by
  refine Moment.milliseconds_eq_of_stamp_eq ha hb ?_
  rw [fileName, fileName, ← String.toList_inj] at h
  simp only [String.toList_append] at h
  exact String.toList_inj.mp (List.append_cancel_left (List.append_cancel_right h))

/-! ## Sizes of texts -/

def IsSingleByte (text : String) : Prop :=
  ∀ c ∈ text.toList, c.utf8Size = 1

instance (text : String) : Decidable (IsSingleByte text) :=
  List.decidableBAll (fun c : Char => c.utf8Size = 1) text.toList

/-- Bytes and characters can be counted alike where each character takes one byte. -/
theorem IsSingleByte.utf8ByteSize_eq {text : String} (h : IsSingleByte text) :
    text.utf8ByteSize = text.length := by
  have hchars : ∀ chars : List Char, (∀ c ∈ chars, c.utf8Size = 1) →
      (String.ofList chars).utf8ByteSize = chars.length := by
    intro chars hone
    induction chars with
    | nil => rfl
    | cons c chars ih =>
        obtain ⟨hc, hone⟩ := List.forall_mem_cons.mp hone
        rw [String.ofList_cons, String.utf8ByteSize_append, String.utf8ByteSize_singleton, ih hone,
          hc, List.length_cons, Nat.add_comm]
  have hsize := hchars text.toList h
  rwa [String.ofList_toList, String.length_toList] at hsize

/-! ## Opened files -/

namespace TimedLog

variable {t : TimedLog} {step : LogStep} {steps before : List LogStep} {name file : String}
  {maxSize : Int} {now : Moment}

def opening? (t : TimedLog) (step : LogStep) : Option Moment :=
  if t.rollsOver step then some t.now else none

def openings (t : TimedLog) (steps : List LogStep) : List Moment :=
  t.collect opening? steps

theorem openings_cons (t : TimedLog) (step : LogStep) (steps : List LogStep) :
    t.openings (step :: steps) = (t.opening? step).toList ++ (t.step step).openings steps := rfl

theorem openings_append (t : TimedLog) (before after : List LogStep) :
    t.openings (before ++ after) = t.openings before ++ (t.run before).openings after :=
  collect_append opening? t before after

theorem settings_step (t : TimedLog) (step : LogStep) :
    (t.step step).log.name = t.log.name ∧ (t.step step).log.maxSize = t.log.maxSize := by
  have hready : (t.ready step).name = t.log.name ∧ (t.ready step).maxSize = t.log.maxSize := by
    unfold ready
    split <;> exact ⟨rfl, rfl⟩
  rw [log_step]
  cases step.message? <;> exact hready

theorem settings_run (t : TimedLog) (steps : List LogStep) :
    (t.run steps).log.name = t.log.name ∧ (t.run steps).log.maxSize = t.log.maxSize := by
  induction steps generalizing t with
  | nil => exact ⟨rfl, rfl⟩
  | cons step steps ih =>
      obtain ⟨hname, hmax⟩ := settings_step t step
      obtain ⟨hname', hmax'⟩ := ih (t.step step)
      exact ⟨hname'.trans hname, hmax'.trans hmax⟩

/-- The files of a run are named after the moments at which they were opened. -/
theorem exists_opening_of_mem_names (h : t.log.IsTidy)
    (hfile : file ∈ (t.run steps).log.files.names) :
    file ∈ t.log.files.names ∨
      ∃ m ∈ t.openings steps, file = RollingLog.fileName t.log.name m := by
  induction steps generalizing t with
  | nil => exact Or.inl hfile
  | cons step steps ih =>
      rcases ih (isTidy_step h step) hfile with hstep | ⟨m, hm, rfl⟩
      · rw [names_step h, ready] at hstep
        split at hstep
        · rename_i hroll
          refine ((LogFiles.mem_names_append_iff _ _ _ _).mp hstep).imp id fun hname => ?_
          refine ⟨t.now, ?_, hname⟩
          rw [openings_cons, opening?, if_pos hroll]
          exact List.mem_cons_self
        · exact Or.inl hstep
      · rw [(settings_step t step).1]
        exact Or.inr ⟨m, List.mem_append_right _ hm, rfl⟩

/-- Each time a run opens a file, the clock shows a later millisecond than at any time before at
which a file was opened, the first file included. -/
structure MovesOn (t : TimedLog) (steps : List LogStep) : Prop where
  valid : ∀ m ∈ t.now :: t.openings steps, m.isValid
  later : (t.now :: t.openings steps).Pairwise fun a b => a.milliseconds < b.milliseconds

theorem MovesOn.of_prefix (h : t.MovesOn steps) (hbefore : before <+: steps) :
    t.MovesOn before := by
  obtain ⟨after, rfl⟩ := hbefore
  have hsublist : (t.now :: t.openings before).Sublist (t.now :: t.openings (before ++ after)) := by
    rw [openings_append]
    exact (List.sublist_append_left _ _).cons_cons _
  exact ⟨fun m hm => h.valid m (hsublist.subset hm), h.later.sublist hsublist⟩

/-- A file that is opened where the clock moves on is a new one. -/
theorem fileName_notMem_names
    (h : (start name maxSize now).MovesOn (steps ++ [step]))
    (hroll : ((start name maxSize now).run steps).rollsOver step) :
    RollingLog.fileName name ((start name maxSize now).run steps).now ∉
      ((start name maxSize now).run steps).log.files.names := by
  intro hmem
  have hopenings : (start name maxSize now).openings (steps ++ [step]) =
      (start name maxSize now).openings steps ++ [((start name maxSize now).run steps).now] := by
    rw [openings_append, openings_cons, opening?, if_pos hroll]
    rfl
  obtain ⟨hvalid, hlater⟩ := h
  rw [hopenings, ← List.cons_append] at hvalid hlater
  obtain ⟨m, hm, hname⟩ : ∃ m ∈ now :: (start name maxSize now).openings steps,
      RollingLog.fileName name ((start name maxSize now).run steps).now =
        RollingLog.fileName name m := by
    have htidy := isTidy_start name maxSize now
    rcases exists_opening_of_mem_names htidy hmem with hfirst | ⟨m, hm, h⟩
    · exact ⟨now, List.mem_cons_self, List.mem_singleton.mp hfirst⟩
    · exact ⟨m, List.mem_cons_of_mem now hm, h⟩
  have hlt := (List.pairwise_append.mp hlater).2.2 m hm _ (List.mem_singleton_self _)
  have heq := RollingLog.milliseconds_eq_of_fileName_eq
    (hvalid _ (List.mem_append_right _ (List.mem_singleton_self _)))
    (hvalid m (List.mem_append_left _ hm)) hname
  omega

/-! ## Sizes of files -/

/-- Each file of a log is smaller than the limit or holds one message only. -/
def IsBounded (t : TimedLog) (entries : List LogEntry) : Prop :=
  ∀ file, ((t.log.files.text file).utf8ByteSize : Int) < t.log.maxSize ∨
    ∃ message, messagesIn file entries = [message]

theorem utf8ByteSize_logText_singleton {message : String} (h : IsSingleByte message) :
    (logText [message]).utf8ByteSize = message.length + 1 := by
  rw [logText_singleton, String.utf8ByteSize_append, h.utf8ByteSize_eq]
  rfl

/-- A message that is written where it does not fill the file leaves it below the limit. -/
theorem utf8ByteSize_lt_of_not_rollsOver {message : String} (hmax : 0 < t.log.maxSize)
    (hbytes : IsSingleByte message) (hroll : t.rollsOver (.message message) = false) :
    ((t.log.files.text t.log.current ++ logText [message]).utf8ByteSize : Int) <
      t.log.maxSize := by
  have hfits : ¬ t.log.maxSize ≤
      (t.log.files.text t.log.current).utf8ByteSize + (message.length + 1) := by
    simpa [rollsOver, RollingLog.isFull, hmax] using hroll
  rw [String.utf8ByteSize_append, utf8ByteSize_logText_singleton hbytes]
  omega

/-- A step keeps the files bounded, if a file that it opens is a new one. -/
theorem isBounded_step {entries : List LogEntry} (h : t.IsBounded entries)
    (hmax : 0 < t.log.maxSize) (hbytes : ∀ message ∈ step.message?, IsSingleByte message)
    (hnew : t.rollsOver step → messagesIn (RollingLog.fileName t.log.name t.now) entries = []) :
    (t.step step).IsBounded (entries ++ (t.written? step).toList) := by
  intro file
  rw [(settings_step t step).2, text_step, messagesIn_append, written?_eq]
  cases step with
  | clock | rollOver => simpa [LogStep.message?, messagesIn, logText] using h file
  | message text =>
      have hentry : (LogStep.message text).message?.map
          (LogEntry.mk (t.ready (.message text)).current) =
            some ⟨(t.ready (.message text)).current, text⟩ := rfl
      rw [hentry, Option.toList_some, messagesIn_singleton]
      split
      · rename_i hfile
        subst hfile
        cases hroll : t.rollsOver (.message text) with
        | true =>
            have hcurrent : (t.ready (.message text)).current =
                RollingLog.fileName t.log.name t.now := by
              rw [ready, if_pos hroll]
              rfl
            refine Or.inr ⟨text, ?_⟩
            rw [hcurrent, hnew hroll, List.nil_append]
        | false =>
            have hcurrent : (t.ready (.message text)).current = t.log.current := by
              rw [ready, if_neg (by simp [hroll])]
            rw [hcurrent]
            exact Or.inl (utf8ByteSize_lt_of_not_rollsOver hmax (hbytes text rfl) hroll)
      · simpa [logText] using h file

/-- A message goes to a new file before it would fill the old one, and the new file is empty as the
clock moved on. -/
theorem isBounded_run (hmax : 0 < maxSize)
    (hbytes : ∀ message ∈ steps.filterMap LogStep.message?, IsSingleByte message)
    (hclock : (start name maxSize now).MovesOn steps) :
    ((start name maxSize now).run steps).IsBounded ((start name maxSize now).entries steps) := by
  have hsettings := settings_run (start name maxSize now)
  -- By induction from the end: whether the last step opens a new file depends on all before it.
  induction steps using List.reverseRecOn with
  | nil =>
      intro file
      rw [run_nil, text_start]
      exact Or.inl hmax
  | append_singleton steps step ih =>
      rw [List.filterMap_append, List.forall_mem_append] at hbytes
      have hbounded := ih hbytes.1 (hclock.of_prefix (List.prefix_append _ _))
      have hname : ((start name maxSize now).run steps).log.name = name := (hsettings steps).1
      have hlimit : ((start name maxSize now).run steps).log.maxSize = maxSize :=
        (hsettings steps).2
      have hlast : ∀ message ∈ step.message?, IsSingleByte message := by
        intro message hmessage
        have hmem : step ∈ [step] := List.mem_singleton_self step
        exact hbytes.2 message (List.mem_filterMap.mpr ⟨step, hmem, hmessage⟩)
      rw [run_append, entries_concat]
      refine isBounded_step hbounded (by rwa [hlimit]) hlast fun hroll => ?_
      refine messagesIn_eq_nil fun entry hentry hfile => ?_
      have hnew := fileName_notMem_names hclock hroll
      rw [hname] at hfile
      exact hnew (hfile ▸ file_mem_names_of_mem_entries (isTidy_start name maxSize now) hentry)

/-- **Bounded files.** While every character takes one byte and the clock moves on between two
openings of a file, at any time each file of a log that starts without files is smaller than the
limit or holds one message only. -/
theorem size_lt_or_single (hmax : 0 < maxSize)
    (hbytes : ∀ message ∈ steps.filterMap LogStep.message?, IsSingleByte message)
    (hclock : (start name maxSize now).MovesOn steps) (hbefore : before <+: steps) :
    ∀ file ∈ ((start name maxSize now).run before).log.files,
      (file.2.utf8ByteSize : Int) < maxSize ∨
        ∃ message, messagesIn file.1 ((start name maxSize now).entries before) = [message] ∧
          file.2 = message ++ "\n" := by
  intro file hfile
  have hbytes' : ∀ message ∈ before.filterMap LogStep.message?, IsSingleByte message :=
    fun message hmessage => hbytes message ((hbefore.filterMap _).subset hmessage)
  have hbounded := isBounded_run hmax hbytes' (hclock.of_prefix hbefore) file.1
  have htext := LogFiles.text_of_mem (nodup_names_run_start name maxSize now before) hfile
  rw [htext, (settings_run _ before).2] at hbounded
  refine hbounded.imp id fun ⟨message, hmessage⟩ => ⟨message, hmessage, ?_⟩
  rw [← htext, text_run_start, hmessage, logText_singleton]

/-- A message that fills a file, a file that a message leaves one byte below the limit, and two
files that stay empty. -/
def fillsFile : List LogStep :=
  let shown (second millisecond : Nat) : LogStep :=
    .clock { date := ⟨2026, 9, 18⟩, hour := 10, second, microsecond := millisecond * 1000 + 999 }
  [shown 1 0, .message "hello", shown 2 0, .message "abc", .message "", shown 2 1, .rollOver]

theorem size_lt_or_single_fillsFile :
    let t := start "app" 6 { date := ⟨2026, 9, 18⟩, hour := 10 }
    0 < t.log.maxSize ∧
      (∀ message ∈ fillsFile.filterMap LogStep.message?, IsSingleByte message) ∧
      t.MovesOn fillsFile ∧
      (t.run fillsFile).log.files =
        [("app-20260918-100000-000.log", ""), ("app-20260918-100001-000.log", "hello\n"),
          ("app-20260918-100002-000.log", "abc\n\n"), ("app-20260918-100002-001.log", "")] ∧
      ∀ file ∈ (t.run fillsFile).log.files, (file.2.utf8ByteSize : Int) < 6 ∨
        ∃ message, messagesIn file.1 (t.entries fillsFile) = [message] ∧
          file.2 = message ++ "\n" := by
  intro t
  have hmax : 0 < t.log.maxSize := by decide
  have hbytes : ∀ message ∈ fillsFile.filterMap LogStep.message?, IsSingleByte message := by
    decide +kernel
  have hclock : t.MovesOn fillsFile := ⟨by decide +kernel, by decide +kernel⟩
  exact ⟨hmax, hbytes, hclock, by decide +kernel,
    size_lt_or_single hmax hbytes hclock List.prefix_rfl⟩

end TimedLog

end TableGateway
