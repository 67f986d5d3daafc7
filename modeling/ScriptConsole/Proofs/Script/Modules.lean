import ScriptConsole.Proofs.Script.Remarks

/-!
Modules one by one: what it takes to load one before a text runs, and to import one while it runs.
-/

namespace ScriptConsole.Script

variable (module : String) (modules : List String)

/-- The modules that the import lines of a text name, in order. -/
def namedModules (code : String) : List String :=
  (Text.lines code.toList).flatMap fun line => importedModules (Text.trim line)

/-- The module is loaded when it is named: it can be, and it is not loaded yet. -/
def Scope.lacks (scope : Scope) (module : String) : Bool :=
  !scope.isLoaded module && scope.available.contains module

theorem Scope.lacks_iff {scope : Scope} {module : String} : scope.lacks module = true ↔
    scope.isLoaded module = false ∧ module ∈ scope.available := by
  rw [lacks, Bool.and_eq_true, Bool.not_eq_true', List.contains_iff_mem]

/-- The module can be imported as things are. -/
def Scope.imports (scope : Scope) (module : String) : Bool :=
  scope.isLoaded module || builtinModules.contains module

/-- The notice that a module is loaded. -/
def notice (module : String) : Dialogue.Call :=
  .stdout ("Loading " ++ module)

theorem loadModules_cons :
    loadModules (module :: modules) = loadModules [module] >>= fun _ => loadModules modules := by
  simp only [loadModules, bind_assoc]
  congr 1
  funext scope
  split
  · simp only [bind_assoc, pure_bind]
  · simp only [pure_bind]

theorem loadModules_singleton (scope : Scope) : (loadModules [module]).run scope =
    if scope.lacks module then
      .stdout ("Loading " ++ module) fun answer =>
        match answer with
        | .ok () => .done (.ok (), scope.load module)
        | .error cause => .done (.error (.host cause), scope)
    else .done (.ok (), scope) := by
  rw [loadModules, run_bind]
  show (if scope.lacks module then _ else _ : Running Unit).run scope = _
  split
  · refine congrArg (Dialogue.stdout _) (funext fun answer => ?_)
    cases answer with
    | ok _ => rfl
    | error cause => rfl
  · rfl

theorem importModules_cons (scope : Scope) : (importModules (module :: modules)).run scope =
    if scope.imports module then (importModules modules).run (scope.load module)
    else .done (.error (.missingModule module), scope) := by
  rw [importModules, run_bind]
  show (if scope.imports module then _ else _ : Running Unit).run scope = _
  split
  · rfl
  · rfl

theorem exists_importModules (scope : Scope) :
    ∃ ended, (importModules modules).run scope = .done ended := by
  induction modules generalizing scope with
  | nil => exact ⟨_, rfl⟩
  | cons module modules ih =>
      rw [importModules_cons]
      split
      · exact ih (scope.load module)
      · exact ⟨_, rfl⟩

end ScriptConsole.Script
