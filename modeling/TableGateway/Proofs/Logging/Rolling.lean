import Mathlib.Data.List.Basic
import TableGateway.Logging.Rolling

/-!
# Rolling logs lose nothing

However the clock is set and the log rolls over, each message stands in one file, the one that was
the current file when it was written, behind the messages that were written to it before. A file
that is opened again is continued, so nothing that was written is taken away.
-/

namespace TableGateway

/-! ## Files -/

namespace LogFiles

def names (files : LogFiles) : List String :=
  files.map Prod.fst

variable {files : LogFiles}

theorem text_cons (file : String × String) (files : LogFiles) (name : String) :
    LogFiles.text (file :: files) name = if file.1 = name then file.2 else files.text name := by
  unfold text
  by_cases h : file.1 = name
  · simp [h]
  · simp [h]

/-- With different names the text of a file is the one it was put there with. -/
theorem text_of_mem (hnodup : files.names.Nodup) {file : String × String} (h : file ∈ files) :
    files.text file.1 = file.2 := by
  induction files with
  | nil => cases h
  | cons first files ih =>
      obtain ⟨hfirst, hrest⟩ := List.nodup_cons.mp hnodup
      rw [text_cons]
      rcases List.mem_cons.mp h with rfl | h
      · rw [if_pos rfl]
      · have hne : first.1 ≠ file.1 := fun hname => hfirst (hname ▸ List.mem_map_of_mem h)
        rw [if_neg hne, ih hrest h]

/-- What is written goes behind what the file holds, and no other file changes. -/
theorem text_append (files : LogFiles) (name added other : String) :
    (files.append name added).text other =
      if name = other then files.text other ++ added else files.text other := by
  induction files with
  | nil =>
      rw [append, text_cons]
      exact ite_congr rfl (fun _ => String.empty_append.symm) fun _ => rfl
  | cons file files ih =>
      unfold append
      by_cases hname : file.1 = name
      · rw [if_pos hname, text_cons, text_cons, hname]
        by_cases hother : name = other
        · simp only [if_pos hother]
        · simp only [if_neg hother]
      · rw [if_neg hname, text_cons, text_cons, ih]
        by_cases hother : file.1 = other
        · rw [if_pos hother, if_pos hother, if_neg fun h => hname (hother.trans h.symm)]
        · rw [if_neg hother, if_neg hother]

theorem text_append_empty (files : LogFiles) (name other : String) :
    (files.append name "").text other = files.text other := by
  rw [text_append, String.append_empty, ite_self]

/-- Writing to a file makes it if it is not there, and moves no other. -/
theorem names_append (files : LogFiles) (name added : String) :
    (files.append name added).names =
      if name ∈ files.names then files.names else files.names ++ [name] := by
  induction files with
  | nil => rfl
  | cons file files ih =>
      unfold append
      by_cases hname : file.1 = name
      · subst hname
        have hmem : file.1 ∈ names (file :: files) := List.mem_cons_self
        rw [if_pos rfl, if_pos hmem]
        rfl
      · have hmem : name ∈ names (file :: files) ↔ name ∈ names files :=
          List.mem_cons.trans (or_iff_right (Ne.symm hname))
        have hcons : names (file :: append files name added) =
            file.1 :: names (append files name added) := rfl
        rw [if_neg hname, hcons, ih, if_congr hmem rfl rfl, apply_ite (file.1 :: ·)]
        rfl

theorem prefix_names_append (files : LogFiles) (name added : String) :
    files.names <+: (files.append name added).names := by
  rw [names_append]
  split
  · exact List.prefix_rfl
  · exact List.prefix_append _ _

theorem mem_names_append_iff (files : LogFiles) (name added other : String) :
    other ∈ (files.append name added).names ↔ other ∈ files.names ∨ other = name := by
  rw [names_append]
  split
  · rename_i hname
    exact (or_iff_left_of_imp fun heq => heq ▸ hname).symm
  · rw [List.mem_append, List.mem_singleton]

theorem mem_names_append (files : LogFiles) (name added : String) :
    name ∈ (files.append name added).names :=
  (mem_names_append_iff files name added name).mpr (Or.inr rfl)

theorem nodup_names_append (h : files.names.Nodup) (name added : String) :
    (files.append name added).names.Nodup := by
  rw [names_append]
  split
  · exact h
  · rename_i hname
    exact (List.perm_append_singleton name files.names).nodup_iff.mpr
      (List.nodup_cons.mpr ⟨hname, h⟩)

end LogFiles

/-! ## Entries -/

structure LogEntry where
  file : String
  message : String
  deriving Repr, DecidableEq

def messagesIn (file : String) (entries : List LogEntry) : List String :=
  (entries.filter fun entry => entry.file = file).map LogEntry.message

def logText (messages : List String) : String :=
  String.join (messages.map (· ++ "\n"))

section

variable {file : String} {entries : List LogEntry}

theorem messagesIn_append (file : String) (front back : List LogEntry) :
    messagesIn file (front ++ back) = messagesIn file front ++ messagesIn file back := by
  simp [messagesIn]

theorem logText_append (front back : List String) :
    logText (front ++ back) = logText front ++ logText back := by
  rw [logText, List.map_append, String.join_append]
  rfl

theorem logText_singleton (message : String) : logText [message] = message ++ "\n" := by
  rw [logText, List.map_singleton, String.join_cons, String.join_nil, String.append_empty]

theorem messagesIn_eq_nil (h : ∀ entry ∈ entries, entry.file ≠ file) :
    messagesIn file entries = [] := by
  rw [messagesIn, List.filter_eq_nil_iff.mpr fun entry hentry => by simpa using h entry hentry]
  rfl

theorem messagesIn_singleton (file : String) (entry : LogEntry) :
    messagesIn file [entry] = if entry.file = file then [entry.message] else [] := by
  unfold messagesIn
  by_cases h : entry.file = file
  · simp [h]
  · simp [h]

/-- Going through the files one after the other one meets every message once. -/
theorem perm_flatMap_messagesIn {names : List String} (hnodup : names.Nodup)
    (h : ∀ entry ∈ entries, entry.file ∈ names) :
    (names.flatMap fun file => messagesIn file entries).Perm (entries.map LogEntry.message) := by
  -- The first name takes its messages away, and the others share the rest.
  induction names generalizing entries with
  | nil =>
      obtain rfl := List.eq_nil_iff_forall_not_mem.mpr fun entry hentry =>
        List.not_mem_nil (h entry hentry)
      exact List.Perm.nil
  | cons name names ih =>
      obtain ⟨hname, hnodup⟩ := List.nodup_cons.mp hnodup
      let others := entries.filter fun entry => !decide (entry.file = name)
      have hothers : ∀ entry ∈ others, entry.file ∈ names := by
        intro entry hentry
        obtain ⟨hmem, hne⟩ := List.mem_filter.mp hentry
        exact (List.mem_cons.mp (h entry hmem)).resolve_left (by simpa using hne)
      have hsame : ∀ file ∈ names, messagesIn file entries = messagesIn file others := by
        intro file hfile
        have hne : file ≠ name := fun heq => hname (heq ▸ hfile)
        rw [messagesIn, messagesIn, List.filter_filter]
        refine congrArg (List.map _) (List.filter_congr fun entry _ => ?_)
        by_cases hentry : entry.file = file
        · simp [hentry, hne]
        · simp [hentry]
      calc (name :: names).flatMap (fun file => messagesIn file entries)
          = messagesIn name entries ++ names.flatMap fun file => messagesIn file others := by
            rw [List.flatMap_cons, List.flatMap_congr hsame]
        List.Perm _ (messagesIn name entries ++ others.map LogEntry.message) :=
            (ih hnodup hothers).append_left _
        _ = ((entries.filter fun entry => entry.file = name) ++ others).map LogEntry.message :=
            List.map_append.symm
        List.Perm _ (entries.map LogEntry.message) := (List.filter_append_perm _ entries).map _

end

/-! ## Steps -/

def LogStep.message? : LogStep → Option String
  | .message text => some text
  | .clock _ | .rollOver => none

namespace RollingLog

def put (log : RollingLog) (message : String) : RollingLog :=
  { log with files := log.files.append log.current (message ++ "\n") }

/-- The files of a log have different names, and the current file is one of them. -/
structure IsTidy (log : RollingLog) : Prop where
  nodup : log.files.names.Nodup
  current : log.current ∈ log.files.names

variable {log : RollingLog}

theorem isTidy_openIn {files : LogFiles} (h : files.names.Nodup) (name : String) (maxSize : Int)
    (now : Moment) : (openIn files name maxSize now).IsTidy :=
  ⟨LogFiles.nodup_names_append h _ _, LogFiles.mem_names_append _ _ _⟩

theorem IsTidy.names_put (h : log.IsTidy) (message : String) :
    (log.put message).files.names = log.files.names := by
  rw [put, LogFiles.names_append, if_pos h.current]

theorem IsTidy.put (h : log.IsTidy) (message : String) : (log.put message).IsTidy := by
  constructor
  · rw [h.names_put]
    exact h.nodup
  · rw [h.names_put]
    exact h.current

end RollingLog

namespace TimedLog

variable {t : TimedLog} {step : LogStep} {steps : List LogStep}

def rollsOver (t : TimedLog) : LogStep → Bool
  | .clock _ => false
  | .message text => t.log.isFull text
  | .rollOver => true

/-- The log as it is when a step writes its message, if it has one. -/
def ready (t : TimedLog) (step : LogStep) : RollingLog :=
  if t.rollsOver step then t.log.rollOver t.now else t.log

theorem log_step (t : TimedLog) (step : LogStep) :
    (t.step step).log =
      match step.message? with
      | some message => (t.ready step).put message
      | none => t.ready step := by
  cases step with
  | clock now => rfl
  | message text => rfl
  | rollOver => rfl

theorem text_ready (t : TimedLog) (step : LogStep) (file : String) :
    (t.ready step).files.text file = t.log.files.text file := by
  unfold ready
  split
  · exact LogFiles.text_append_empty _ _ _
  · rfl

theorem isTidy_ready (h : t.log.IsTidy) (step : LogStep) : (t.ready step).IsTidy := by
  unfold ready
  split
  · exact RollingLog.isTidy_openIn h.nodup _ _ _
  · exact h

def written? (t : TimedLog) (step : LogStep) : Option LogEntry :=
  step.message?.map (LogEntry.mk (t.step step).log.current)

theorem current_step (t : TimedLog) (step : LogStep) :
    (t.step step).log.current = (t.ready step).current := by
  rw [log_step]
  cases step.message? <;> rfl

theorem written?_eq (t : TimedLog) (step : LogStep) :
    t.written? step = step.message?.map (LogEntry.mk (t.ready step).current) := by
  rw [written?, current_step]

/-- A step adds its entry to the file of that entry and leaves all other texts alone. -/
theorem text_step (t : TimedLog) (step : LogStep) (file : String) :
    (t.step step).log.files.text file =
      t.log.files.text file ++ logText (messagesIn file (t.written? step).toList) := by
  rw [written?_eq, log_step, ← text_ready t step file]
  cases step.message? with
  | none => exact String.append_empty.symm
  | some message =>
      have hput : ((t.ready step).put message).files =
          (t.ready step).files.append (t.ready step).current (message ++ "\n") := rfl
      dsimp only
      rw [hput, LogFiles.text_append, Option.map_some, Option.toList_some, messagesIn_singleton]
      split
      · rw [logText_singleton]
      · exact String.append_empty.symm

theorem isTidy_step (h : t.log.IsTidy) (step : LogStep) : (t.step step).log.IsTidy := by
  rw [log_step]
  cases step.message? with
  | none => exact isTidy_ready h step
  | some message => exact (isTidy_ready h step).put message

theorem names_step (h : t.log.IsTidy) (step : LogStep) :
    (t.step step).log.files.names = (t.ready step).files.names := by
  rw [log_step]
  cases step.message? with
  | none => rfl
  | some message => exact (isTidy_ready h step).names_put message

theorem prefix_names_step (h : t.log.IsTidy) (step : LogStep) :
    t.log.files.names <+: (t.step step).log.files.names := by
  rw [names_step h, ready]
  split
  · exact LogFiles.prefix_names_append _ _ _
  · exact List.prefix_rfl

/-! ## Runs -/

def collect {α : Type} (see : TimedLog → LogStep → Option α) (t : TimedLog) :
    List LogStep → List α
  | [] => []
  | step :: steps => (see t step).toList ++ collect see (t.step step) steps

def entries (t : TimedLog) (steps : List LogStep) : List LogEntry :=
  t.collect written? steps

@[simp]
theorem run_nil (t : TimedLog) : t.run [] = t := rfl

@[simp]
theorem run_cons (t : TimedLog) (step : LogStep) (steps : List LogStep) :
    t.run (step :: steps) = (t.step step).run steps := rfl

theorem run_append (t : TimedLog) (before after : List LogStep) :
    t.run (before ++ after) = (t.run before).run after :=
  List.foldl_append

theorem collect_append {α : Type} (see : TimedLog → LogStep → Option α) (t : TimedLog)
    (before after : List LogStep) :
    t.collect see (before ++ after) = t.collect see before ++ (t.run before).collect see after := by
  induction before generalizing t with
  | nil => rfl
  | cons step before ih =>
      rw [List.cons_append, collect, collect, ih, List.append_assoc, run_cons]

theorem entries_cons (t : TimedLog) (step : LogStep) (steps : List LogStep) :
    t.entries (step :: steps) = (t.written? step).toList ++ (t.step step).entries steps := rfl

theorem entries_concat (t : TimedLog) (steps : List LogStep) (step : LogStep) :
    t.entries (steps ++ [step]) = t.entries steps ++ ((t.run steps).written? step).toList :=
  (collect_append written? t steps [step]).trans (by rw [collect, collect, List.append_nil]; rfl)

theorem map_message_entries (t : TimedLog) (steps : List LogStep) :
    (t.entries steps).map LogEntry.message = steps.filterMap LogStep.message? := by
  induction steps generalizing t with
  | nil => rfl
  | cons step steps ih =>
      rw [entries_cons, List.map_append, ih, written?, List.filterMap_cons]
      cases step.message? <;> rfl

/-- A run adds its entries to the files, each behind what is there. -/
theorem text_run (t : TimedLog) (steps : List LogStep) (file : String) :
    (t.run steps).log.files.text file =
      t.log.files.text file ++ logText (messagesIn file (t.entries steps)) := by
  induction steps generalizing t with
  | nil => exact String.append_empty.symm
  | cons step steps ih =>
      rw [run_cons, ih, text_step, entries_cons, messagesIn_append, logText_append,
        String.append_assoc]

theorem isTidy_run (h : t.log.IsTidy) (steps : List LogStep) : (t.run steps).log.IsTidy := by
  induction steps generalizing t with
  | nil => exact h
  | cons step steps ih => exact ih (isTidy_step h step)

theorem prefix_names_run (h : t.log.IsTidy) (steps : List LogStep) :
    t.log.files.names <+: (t.run steps).log.files.names := by
  induction steps generalizing t with
  | nil => exact List.prefix_rfl
  | cons step steps ih => exact (prefix_names_step h step).trans (ih (isTidy_step h step))

theorem file_mem_names_of_mem_entries (h : t.log.IsTidy) {entry : LogEntry}
    (hentry : entry ∈ t.entries steps) : entry.file ∈ (t.run steps).log.files.names := by
  induction steps generalizing t with
  | nil => cases hentry
  | cons step steps ih =>
      have hstep := isTidy_step h step
      rcases List.mem_append.mp hentry with hentry | hentry
      · obtain ⟨message, -, rfl⟩ := Option.map_eq_some_iff.mp (Option.mem_toList.mp hentry)
        exact (prefix_names_run hstep steps).subset hstep.current
      · exact ih hstep hentry

/-- A run keeps every message that is written in it. -/
structure Keeps (t : TimedLog) (steps : List LogStep) : Prop where
  logged : (t.entries steps).map LogEntry.message = steps.filterMap LogStep.message?
  /-- Each file holds the messages that were written while it was the current one. -/
  text : ∀ file, (t.run steps).log.files.text file = logText (messagesIn file (t.entries steps))
  nodup : (t.run steps).log.files.names.Nodup
  once : ((t.run steps).log.files.names.flatMap fun file =>
    messagesIn file (t.entries steps)).Perm (steps.filterMap LogStep.message?)
  /-- A file that is there at some time stays there, and its text is continued only. -/
  grows : ∀ before, before <+: steps →
    (t.run before).log.files.names <+: (t.run steps).log.files.names ∧
      ∀ file, ((t.run before).log.files.text file).toList <+:
        ((t.run steps).log.files.text file).toList

theorem isTidy_start (name : String) (maxSize : Int) (now : Moment) :
    (start name maxSize now).log.IsTidy :=
  have hnodup : (LogFiles.names []).Nodup := List.nodup_nil
  RollingLog.isTidy_openIn hnodup name maxSize now

theorem text_start (name : String) (maxSize : Int) (now : Moment) (file : String) :
    (start name maxSize now).log.files.text file = "" :=
  LogFiles.text_append_empty [] _ file

theorem nodup_names_run_start (name : String) (maxSize : Int) (now : Moment)
    (steps : List LogStep) : ((start name maxSize now).run steps).log.files.names.Nodup :=
  (isTidy_run (isTidy_start name maxSize now) steps).nodup

/-- A log that starts without files holds the messages that were written, and nothing else. -/
theorem text_run_start (name : String) (maxSize : Int) (now : Moment) (steps : List LogStep)
    (file : String) : ((start name maxSize now).run steps).log.files.text file =
      logText (messagesIn file ((start name maxSize now).entries steps)) := by
  rw [text_run, text_start, String.empty_append]

/-- **Nothing lost, nothing twice.** A log that starts without files keeps every message, however
the clock is set and whenever the log rolls over. -/
theorem keeps_start (name : String) (maxSize : Int) (now : Moment) (steps : List LogStep) :
    (start name maxSize now).Keeps steps := by
  have htidy := isTidy_start name maxSize now
  have hlogged := map_message_entries (start name maxSize now) steps
  have hnodup := nodup_names_run_start name maxSize now steps
  refine ⟨hlogged, text_run_start name maxSize now steps, hnodup, ?_, ?_⟩
  · rw [← hlogged]
    exact perm_flatMap_messagesIn hnodup fun entry => file_mem_names_of_mem_entries htidy
  · rintro before ⟨after, rfl⟩
    rw [run_append]
    refine ⟨prefix_names_run (isTidy_run htidy before) after, fun file => ?_⟩
    rw [text_run _ after, String.toList_append]
    exact List.prefix_append _ _

def setBack : List LogStep :=
  [.message "a", .clock { date := ⟨2026, 9, 18⟩, hour := 11 }, .rollOver, .message "b",
    .clock { date := ⟨2026, 9, 18⟩, hour := 10 }, .rollOver, .message "c"]

theorem keeps_start_setBack :
    let t := start "app" 100 { date := ⟨2026, 9, 18⟩, hour := 10, microsecond := 999 }
    t.Keeps setBack ∧
      (t.run setBack).log.files =
        [("app-20260918-100000-000.log", "a\nc\n"), ("app-20260918-110000-000.log", "b\n")] := by
  intro t
  exact ⟨keeps_start _ _ _ _, by decide +kernel⟩

end TimedLog

end TableGateway
