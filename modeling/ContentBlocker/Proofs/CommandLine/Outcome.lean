import Mathlib.Order.Defs.Unbundled
import ContentBlocker.CommandLine.FilterFiles

/-!
# What a command does to a world

A command that runs on a world ends with a value or breaks off, and leaves a world behind in either
case (`Session.outcome`).  The commands are put together from the operations of a host, so here is
what each of these does, and what the parts of a command say about the whole:

* a command has ended with a value exactly if each of its parts has (`outcome_bind_eq_ok_iff`);
* a relation between the worlds before and after that each part keeps is kept by the whole, however
  that ends, if the relation is a preorder (`Relates.bind`);
* a command is refused, with all files as they were, if it breaks off or says that something is
  wrong after parts that only look (`Refuses`).

Loading filter lists is made of operations that only look, so it leaves the world as it is
(`relates_loadLists`).
-/

set_option autoImplicit false
namespace ContentBlocker.CommandLine
namespace Session

variable {α β : Type}

/-- How a command ends on a world, and the world that it leaves. -/
def outcome (command : Session α) (world : World) : Except Failure α × World :=
  (command.run.run world).run

theorem outcome_pure (a : α) (world : World) : outcome (pure a) world = (.ok a, world) :=
  rfl

/-- The second part of a command runs on the world that the first one leaves. -/
theorem outcome_bind_of_ok {first : Session α} {world next : World} {a : α}
    (h : outcome first world = (.ok a, next)) (second : α → Session β) :
    outcome (first >>= second) world = outcome (second a) next := by
  have h : first.run.run world = pure (.ok a, next) := h
  rw [outcome, ExceptT.run_bind, StateT.run_bind, h]
  rfl

/-- A command breaks off where its first part does. -/
theorem outcome_bind_of_error {first : Session α} {world next : World} {failure : Failure}
    (h : outcome first world = (.error failure, next)) (second : α → Session β) :
    outcome (first >>= second) world = (.error failure, next) := by
  have h : first.run.run world = pure (.error failure, next) := h
  rw [outcome, ExceptT.run_bind, StateT.run_bind, h]
  rfl

/-- **A command has ended with a value if each of its parts has.** -/
theorem outcome_bind_eq_ok_iff {first : Session α} {second : α → Session β} {world last : World}
    {b : β} : outcome (first >>= second) world = (.ok b, last) ↔
      ∃ a next, outcome first world = (.ok a, next) ∧ outcome (second a) next = (.ok b, last) := by
  rcases hfirst : outcome first world with ⟨failure | a, next⟩
  · rw [outcome_bind_of_error hfirst]
    refine iff_of_false (fun h => nomatch h) ?_
    rintro ⟨a, next', heq, -⟩
    cases heq
  · rw [outcome_bind_of_ok hfirst]
    constructor
    · exact fun h => ⟨a, next, rfl, h⟩
    · rintro ⟨a', next', heq, h⟩
      cases heq
      exact h

/-- Commands go on in the same way if they do so wherever their first part ends with a value. -/
theorem outcome_bind_congr {first : Session α} {second second' : α → Session β} {world : World}
    (h : ∀ a next, outcome first world = (.ok a, next) →
      outcome (second a) next = outcome (second' a) next) :
    outcome (first >>= second) world = outcome (first >>= second') world := by
  rcases hfirst : outcome first world with ⟨failure | a, next⟩
  · rw [outcome_bind_of_error hfirst, outcome_bind_of_error hfirst]
  · rw [outcome_bind_of_ok hfirst, outcome_bind_of_ok hfirst]
    exact h a next hfirst

/-- A command that is run for each element of a list, and leaves the world as it is each time. -/
theorem outcome_mapM_of_ok {command : α → Session β} {value : α → β} {as : List α}
    {world : World} (h : ∀ a ∈ as, outcome (command a) world = (.ok (value a), world)) :
    outcome (as.mapM command) world = (.ok (as.map value), world) := by
  induction as with
  | nil => rfl
  | cons a as ih =>
    obtain ⟨hfirst, hrest⟩ := List.forall_mem_cons.1 h
    rw [List.mapM_cons, outcome_bind_of_ok hfirst, outcome_bind_of_ok (ih hrest)]
    rfl

/-! ## The operations of the host -/

section
variable (world : World)

theorem outcome_workingDirectory :
    outcome Host.workingDirectory world = (.ok world.workingDirectory, world) :=
  rfl

theorem outcome_now : outcome Host.now world = (.ok world.time, world) :=
  rfl

theorem outcome_print (line : String) : outcome (Host.print line) world =
    (.ok (), { world with output := world.output ++ [line] }) :=
  rfl

theorem outcome_printError (line : String) : outcome (Host.printError line) world =
    (.ok (), { world with errors := world.errors ++ [line] }) :=
  rfl

/-- A question about the files leaves the world as it is. -/
theorem outcome_ask (question : FileSystem → Except FileFault α) :
    outcome (ask question) world = ((question world.files).mapError .file, world) := by
  have hget : outcome (get : Session World) world = (.ok world, world) := rfl
  rw [ask, outcome_bind_of_ok hget]
  cases question world.files <;> rfl

theorem outcome_readText_of_ok {world : World} {path : FilePath} {text : String}
    (h : world.files.read path = .ok text) :
    outcome (Host.readText path) world = (.ok text, world) := by
  have hread := outcome_ask world (·.read path)
  rwa [h] at hread

theorem outcome_readText_of_error {world : World} {path : FilePath} {fault : FileFault}
    (h : world.files.read path = .error fault) :
    outcome (Host.readText path) world = (.error (.file fault), world) := by
  have hread := outcome_ask world (·.read path)
  rwa [h] at hread

/-- The files are changed, or the world stays as it is. -/
theorem outcome_change (f : FileSystem → Except FileFault FileSystem) :
    outcome (change f) world =
      match f world.files with
      | .ok files => (.ok (), { world with files := files })
      | .error fault => (.error (.file fault), world) := by
  have hask := outcome_ask world f
  cases hf : f world.files with
  | ok files =>
    rw [hf] at hask
    exact outcome_bind_of_ok hask _
  | error fault =>
    rw [hf] at hask
    exact outcome_bind_of_error hask _

end

/-! ## Relations between the worlds before and after -/

/-- The worlds before and after a command are related, however the command ends. -/
def Relates (R : World → World → Prop) (command : Session α) : Prop :=
  ∀ world, R world (outcome command world).2

section
variable {R : World → World → Prop} [IsPreorder World R]

theorem Relates.pure (a : α) : Relates R (Pure.pure a) :=
  fun world => refl_of R world

/-- A command keeps what its parts keep. -/
theorem Relates.bind {first : Session α} {second : α → Session β} (hfirst : Relates R first)
    (hsecond : ∀ a, Relates R (second a)) : Relates R (first >>= second) := by
  intro world
  have hworld := hfirst world
  rcases heq : outcome first world with ⟨failure | a, next⟩
  · rw [heq] at hworld
    rw [outcome_bind_of_error heq]
    exact hworld
  · rw [heq] at hworld
    rw [outcome_bind_of_ok heq]
    exact trans_of R hworld (hsecond a next)

theorem Relates.mapM {f : α → Session β} (h : ∀ a, Relates R (f a)) (as : List α) :
    Relates R (as.mapM f) := by
  induction as with
  | nil =>
    rw [List.mapM_nil]
    exact .pure _
  | cons a as ih =>
    rw [List.mapM_cons]
    exact (h a).bind fun _ => ih.bind fun _ => .pure _

/-- A question about the files leaves everything as it is. -/
theorem relates_ask (question : FileSystem → Except FileFault α) : Relates R (ask question) := by
  intro world
  rw [outcome_ask]
  exact refl_of R world

/-- Loading filter lists leaves everything as it is. -/
theorem relates_loadLists (input : FilePath) : Relates R (loadLists input) := by
  have hfiles : Relates R (inputFiles input) := by
    have hdirectory : Relates R (Host.isDirectory input) :=
      (relates_ask _).bind fun _ => .pure _
    refine hdirectory.bind fun isDirectory => ?_
    split
    · exact (relates_ask _).bind fun _ => .pure _
    · exact .pure _
  exact hfiles.bind fun files => (Relates.mapM (fun _ => relates_ask _) files).bind fun _ => .pure _

end

/-- The world behind the loading of filter lists is the one before it. -/
theorem eq_of_outcome_loadLists {input : FilePath} {world next : World}
    {ended : Except Failure LoadedLists} (h : outcome (loadLists input) world = (ended, next)) :
    next = world := by
  have heq := relates_loadLists (R := Eq) input world
  rw [h] at heq
  exact heq.symm

/-! ## Refusals -/

/-- A command leaves the files as they are and does not end with 0. -/
structure Refuses (command : Session Nat) (world : World) : Prop where
  ended : (outcome command world).1 ≠ .ok 0
  files : (outcome command world).2.files = world.files

section
variable {world : World}

theorem Refuses.fail (failure : Failure) : Refuses (Host.fail failure) world :=
  ⟨fun h => (nomatch h), rfl⟩

/-- A command that only says what is wrong. -/
theorem Refuses.printError (line : String) :
    Refuses (Host.printError line >>= fun _ => pure 1) world :=
  ⟨fun h => Nat.one_ne_zero (Except.ok.inj h), rfl⟩

/-- A command that breaks off before anything has changed. -/
theorem Refuses.of_error {first : Session α} {failure : Failure}
    (h : outcome first world = (.error failure, world)) (second : α → Session Nat) :
    Refuses (first >>= second) world := by
  constructor
  · rw [outcome_bind_of_error h]
    exact fun h => nomatch h
  · rw [outcome_bind_of_error h]

/-- A command that is refused after its first part has looked at something. -/
theorem Refuses.of_ok {first : Session α} {a : α} (h : outcome first world = (.ok a, world))
    {second : α → Session Nat} (hsecond : Refuses (second a) world) :
    Refuses (first >>= second) world := by
  constructor
  · rw [outcome_bind_of_ok h]
    exact hsecond.ended
  · rw [outcome_bind_of_ok h]
    exact hsecond.files

end
end Session
end ContentBlocker.CommandLine
