import TableGateway.Proofs.Action
import TableGateway.Settings.Environment

namespace TableGateway

theorem Logged.exists_of_andThen {ε α β : Type} {x : Logged (Except ε α)}
    {f : α → Logged (Except ε β)} {b : β} (h : (x.andThen f).value = .ok b) :
    ∃ a, x.value = .ok a ∧ (f a).value = .ok b := by
  unfold andThen at h
  cases hx : x.value with
  | error e =>
      rw [hx] at h
      cases h
  | ok a =>
      rw [hx] at h
      exact ⟨a, rfl, h⟩

def Binding.valueOf? (binding : Binding) (name : String) : Option String :=
  if binding.name = name then binding.value else none

namespace Environment

variable {env added : Environment} {name : String}

def inFile? (env : Environment) (file : Option (List UInt8)) (name : String) : Option String :=
  file.bind fun bytes =>
    (Text.Utf8.decode bytes).toOption.bind fun text =>
      (env.resolveAll (VariableFile.read text)).findSome? (Binding.valueOf? · name)

theorem get?_append (env other : Environment) (name : String) :
    Environment.get? (env ++ other) name = (env.get? name).or (other.get? name) := by
  unfold get?
  rw [List.find?_append, Option.map_or]

/-- A binding sets its name if that is not set yet, and nothing else. -/
theorem get?_add {binding : Binding} (h : env.add binding = .ok added) :
    added.get? name = (env.get? name).or (binding.valueOf? name) := by
  unfold add at h
  split at h
  · rename_i value hunset hvalue
    split at h
    · cases h
    · split at h
      · cases h
      · cases h
        rw [get?_append]
        congr 1
        by_cases hname : binding.name = name
        · simp [Environment.get?, Binding.valueOf?, hname, hvalue]
        · simp [Environment.get?, Binding.valueOf?, hname]
  · rename_i hkept
    cases h
    unfold Binding.valueOf?
    split
    · rename_i hname
      subst hname
      cases hset : env.get? binding.name with
      | some value => rfl
      | none =>
          cases hvalue : binding.value with
          | none => rfl
          | some value => exact absurd hvalue (hkept value hset)
    · rw [Option.or_none]

/-- The first binding of a file counts, and only where the variable has no value yet. -/
theorem get?_foldlM_add {bindings : List Binding} (h : bindings.foldlM add env = .ok added) :
    added.get? name = (env.get? name).or (bindings.findSome? (Binding.valueOf? · name)) := by
  induction bindings generalizing env with
  | nil =>
      cases h
      rw [List.findSome?_nil, Option.or_none]
  | cons binding rest ih =>
      rw [List.foldlM_cons] at h
      obtain ⟨next, hnext, hrest⟩ := bind_eq_ok_iff.mp h
      rw [ih hrest, get?_add hnext, Option.or_assoc, List.findSome?_cons]
      cases binding.valueOf? name <;> rfl

end Environment

namespace Deployment

open Environment

variable {d : Deployment} {name : String}

/-- A file gives a variable only what it does not have. -/
theorem get?_takeInFile {fileName : String} {file : Option (List UInt8)} {env added : Environment}
    (hloads : d.leavesFiles env = false) (h : (d.takeInFile fileName file env).value = .ok added) :
    added.get? name = (env.get? name).or (env.inFile? file name) := by
  unfold takeInFile at h
  cases file with
  | none =>
      cases h
      simp [inFile?]
  | some bytes =>
      dsimp only at h
      rw [hloads, if_neg Bool.false_ne_true] at h
      obtain ⟨text, htext, hadded⟩ := bind_eq_ok_iff.mp h
      rw [get?_foldlM_add hadded]
      cases hdecode : Text.Utf8.decode bytes with
      | error fault =>
          rw [hdecode] at htext
          cases htext
      | ok decoded =>
          rw [hdecode] at htext
          cases htext
          simp [inFile?, hdecode, Except.toOption]

/-- The loader leaves neither file of variables alone when its turn comes. -/
structure LoadsFiles (d : Deployment) : Prop where
  backend : d.leavesFiles d.processVariables = false
  root : ∀ env, (d.takeInFile "backend.env" d.backendVariables d.processVariables).value = .ok env →
    d.leavesFiles env = false

/-- Variables have the values that the process gives them, else those of the file of the service,
else those of the file of the project. -/
def Provides (d : Deployment) (env : Environment) : Prop :=
  ∃ before : Environment,
    (∀ name, before.get? name = (d.processVariables.get? name).or
      (d.processVariables.inFile? d.backendVariables name)) ∧
    ∀ name, env.get? name = (before.get? name).or (before.inFile? d.rootVariables name)

theorem provides_environment {env : Environment} (hloads : d.LoadsFiles)
    (h : d.environment.value = .ok env) : d.Provides env := by
  obtain ⟨before, hbackend, hroot⟩ := Logged.exists_of_andThen h
  exact ⟨before, fun _ => get?_takeInFile hloads.backend hbackend,
    fun _ => get?_takeInFile (hloads.root before hbackend) hroot⟩

end Deployment

end TableGateway
