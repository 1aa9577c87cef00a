import Gatehouse.CommandLine.Program

/-!
# Configuration files on the command line

An option announces that the next argument is a configuration file, so not every argument is in
option position.  `IsRead` cuts arguments into the options that are in option position, each with
its file, and a rest, which starts with whatever else is in option position.

* `exists_isRead`, `IsRead.unique` — every list of arguments is read in one way.
* `ofArgs_flatMap` — options with their files leave nothing behind but the last file.
* `run_of_args` — what becomes of the rest: the first argument that announces no file ends the
  program, and otherwise it starts with the file that was announced last, just if each option has
  its file.
* `run_forgets` — an option at the end without a file, for which the program forgets the file that
  it has been given.
-/

set_option autoImplicit false

namespace Gatehouse
namespace CommandLine

variable {args rest rest' : List String} {options options' : List (String × String)}
  {arg option path : String}

/-- Whether an argument announces that the next one is a configuration file. -/
def Announces (arg : String) : Prop :=
  arg = "--config" ∨ arg = "-c"

instance (arg : String) : Decidable (Announces arg) :=
  inferInstanceAs (Decidable (_ ∨ _))

/-! ## Reading -/

/-- Arguments as they are read: options that announce a file, each with its file, and the rest.  An
option that is left in front of the rest has no file, so nothing comes after it. -/
structure IsRead (args : List String) (options : List (String × String)) (rest : List String) :
    Prop where
  args_eq : args = options.flatMap (fun o => [o.1, o.2]) ++ rest
  announces : ∀ o ∈ options, Announces o.1
  ends : ∀ arg more, rest = arg :: more → Announces arg → more = []

theorem IsRead.cons (h : IsRead args options rest) (harg : Announces option) :
    IsRead (option :: path :: args) ((option, path) :: options) rest where
  args_eq := congrArg (option :: path :: ·) h.args_eq
  announces := List.forall_mem_cons.2 ⟨harg, h.announces⟩
  ends := h.ends

/-- Arguments that start with something that announces no file are all left. -/
theorem isRead_of_stop (h : ¬ Announces arg) : IsRead (arg :: rest) [] (arg :: rest) where
  args_eq := rfl
  announces := List.forall_mem_nil _
  ends := fun _ _ heq harg => absurd ((List.cons.inj heq).1 ▸ harg) h

/-- **Every list of arguments can be read.** -/
theorem exists_isRead : ∀ args, ∃ options rest, IsRead args options rest
  | [] => ⟨[], [], rfl, List.forall_mem_nil _, fun _ _ heq => nomatch heq⟩
  | [arg] => ⟨[], [arg], rfl, List.forall_mem_nil _, fun _ _ heq _ => (List.cons.inj heq).2.symm⟩
  | arg :: next :: args => by
    by_cases h : Announces arg
    · obtain ⟨options, rest, hread⟩ := exists_isRead args
      exact ⟨(arg, next) :: options, rest, hread.cons h⟩
    · exact ⟨[], arg :: next :: args, isRead_of_stop h⟩

/-- **There is one way to read some arguments.** -/
theorem IsRead.unique (h : IsRead args options rest) (h' : IsRead args options' rest') :
    options = options' ∧ rest = rest' := by
  induction options generalizing args options' with
  | nil =>
    cases options' with
    | nil => exact ⟨rfl, h.args_eq.symm.trans h'.args_eq⟩
    | cons o options' =>
      -- what is left starts with an option, so its file cannot follow
      have hrest : rest = o.1 :: o.2 :: (options'.flatMap (fun o => [o.1, o.2]) ++ rest') :=
        h.args_eq.symm.trans h'.args_eq
      cases h.ends _ _ hrest (h'.announces o List.mem_cons_self)
  | cons o options ih =>
    cases options' with
    | nil =>
      have hrest : rest' = o.1 :: o.2 :: (options.flatMap (fun o => [o.1, o.2]) ++ rest) :=
        h'.args_eq.symm.trans h.args_eq
      cases h'.ends _ _ hrest (h.announces o List.mem_cons_self)
    | cons o' options' =>
      have hsame := h.args_eq.symm.trans h'.args_eq
      simp only [List.flatMap_cons, List.cons_append, List.nil_append, List.cons.injEq] at hsame
      obtain ⟨hoption, hpath, htail⟩ := hsame
      obtain ⟨rfl, rfl⟩ := ih
        ⟨rfl, fun p hp => h.announces p (List.mem_cons_of_mem o hp), h.ends⟩
        ⟨htail, fun p hp => h'.announces p (List.mem_cons_of_mem o' hp), h'.ends⟩
      exact ⟨congrArg (· :: options) (Prod.ext hoption hpath), rfl⟩

/-! ## What is asked for -/

namespace Invocation

theorem ofArgs_announced (h : Announces option) (file : Option String) (path : String)
    (args : List String) :
    ofArgs file (option :: path :: args) = ofArgs (some path) args := by
  rw [ofArgs]
  exact if_pos h

/-- **Options with their files leave nothing behind but the last file.** -/
theorem ofArgs_flatMap (h : ∀ o ∈ options, Announces o.1) (file : Option String)
    (rest : List String) :
    ofArgs file (options.flatMap (fun o => [o.1, o.2]) ++ rest) =
      ofArgs ((options.getLast?.map Prod.snd).or file) rest := by
  induction options generalizing file with
  | nil => rfl
  | cons o options ih =>
    obtain ⟨ho, hoptions⟩ := List.forall_mem_cons.1 h
    have hfront : (o :: options).flatMap (fun o => [o.1, o.2]) ++ rest =
        o.1 :: o.2 :: (options.flatMap (fun o => [o.1, o.2]) ++ rest) := rfl
    rw [hfront, ofArgs_announced ho, ih hoptions, List.getLast?_cons]
    cases options.getLast? <;> rfl

/-- An option at the end has no file, and takes away the one before it. -/
theorem ofArgs_valueless (h : Announces option) (file : Option String) :
    ofArgs file [option] = .start none := by
  rw [ofArgs]
  exact if_pos h

/-- What is asked for by an argument that announces no file. -/
def ofStop (arg : String) : Invocation :=
  if arg = "--help" ∨ arg = "-h" then .help
  else if arg = "--version" ∨ arg = "-v" then .version
  else .unknown arg

theorem ofArgs_stop (h : ¬ Announces arg) (file : Option String) :
    ∀ more, ofArgs file (arg :: more) = ofStop arg
  | [] | _ :: _ => by
    rw [ofArgs]
    exact if_neg h

end Invocation

theorem IsRead.parse_eq (h : IsRead args options rest) :
    Invocation.parse args = Invocation.ofArgs (options.getLast?.map Prod.snd) rest := by
  rw [Invocation.parse, h.args_eq, Invocation.ofArgs_flatMap h.announces, Option.or_none]

/-! ## What happens -/

/-- How the program ends at an argument that announces no file. -/
def stopped (arg : String) : Outcome :=
  if arg = "--help" ∨ arg = "-h" then { exitCode := some 0, stdout := helpText }
  else if arg = "--version" ∨ arg = "-v" then
    { exitCode := some 0, stdout := Gateway.programName ++ " " ++ Gateway.version ++ "\n" }
  else
    { exitCode := some 1
      stderr := "Unknown argument: " ++ arg ++ "\nUse --help for usage information\n" }

theorem run_of_stop {m : Machine} (h : Invocation.parse m.args = .ofStop arg) :
    run m = stopped arg := by
  by_cases hhelp : arg = "--help" ∨ arg = "-h"
  · have hparse : Invocation.parse m.args = .help := h.trans (if_pos hhelp)
    rw [run, hparse, stopped, if_pos hhelp]
  · rw [Invocation.ofStop, if_neg hhelp] at h
    by_cases hversion : arg = "--version" ∨ arg = "-v"
    · have hparse : Invocation.parse m.args = .version := h.trans (if_pos hversion)
      rw [run, hparse, stopped, if_neg hhelp, if_pos hversion]
    · have hparse : Invocation.parse m.args = .unknown arg := h.trans (if_neg hversion)
      have hmessage : "Unknown argument: " ++ arg ++ "\nUse --help for usage information" ++ "\n" =
          "Unknown argument: " ++ arg ++ "\nUse --help for usage information\n" :=
        String.append_assoc
      rw [run, hparse, stopped, if_neg hhelp, if_neg hversion, ← hmessage]
      rfl

theorem run_of_start {m : Machine} {file : Option String}
    (h : Invocation.parse m.args = .start file) : run m = start m file := by
  rw [run, h]

/-- A program that starts with a configuration file reads no other file but that of the
environment. -/
theorem start_congr {m : Machine} {files : Directory}
    (henv : files.lookup ".env" = m.files.lookup ".env")
    (hfile : files.entry? path = m.files.entry? path) :
    start { m with files } (some path) = start m (some path) := by
  have hconfigure : configure { m with files } (some path) = configure m (some path) := by
    rw [configure, configure, Loader.dotenv, Loader.dotenv, henv, withConfigFile, withConfigFile,
      Loader.withFile, Loader.withFile, hfile]
  rw [start, start, hconfigure]

/-- The file of the option that comes last, if any option is in option position, is the file that
the program starts with, whatever other files there are. -/
def HonoursLast (m : Machine) (options : List (String × String)) (rest : List String) : Prop :=
  options ≠ [] ∨ rest ≠ [] →
    ∃ last, options.getLast? = some last ∧ Invocation.parse m.args = .start (some last.2) ∧
      ∀ files : Directory, files.lookup ".env" = m.files.lookup ".env" →
        files.entry? last.2 = m.files.entry? last.2 → run { m with files } = run m

/-- **What the program makes of its arguments.**  The first that is in option position and announces
no file ends it, with what that asks for.  If there is none, the program starts: with the file of
the last option, or without one if there is no option, just if every option has its file; and
without one if the last argument is an option. -/
theorem run_of_args (m : Machine) :
    ∃ options rest, IsRead m.args options rest ∧
      (∀ arg more, rest = arg :: more → ¬ Announces arg → run m = stopped arg) ∧
      ((∀ arg ∈ rest, Announces arg) →
        run m = start m (if rest = [] then options.getLast?.map Prod.snd else none) ∧
          (HonoursLast m options rest ↔ rest = [])) := by
  obtain ⟨options, rest, hread⟩ := exists_isRead m.args
  have hparse := hread.parse_eq
  refine ⟨options, rest, hread, fun arg more hrest hstop => ?_, fun hall => ?_⟩
  · rw [hrest, Invocation.ofArgs_stop hstop] at hparse
    exact run_of_stop hparse
  · cases rest with
    | nil =>
      have hstart : Invocation.parse m.args = .start (options.getLast?.map Prod.snd) := hparse
      refine ⟨run_of_start hstart, iff_of_true (fun hsome => ?_) rfl⟩
      obtain ⟨last, hlast⟩ : ∃ last, options.getLast? = some last :=
        Option.isSome_iff_exists.1
          (List.getLast?_isSome.2 (hsome.resolve_right (not_not_intro rfl)))
      rw [hlast] at hstart
      refine ⟨last, hlast, hstart, fun files henv hfile => ?_⟩
      rw [run_of_start hstart, run_of_start (m := { m with files }) hstart, Option.map_some,
        start_congr henv hfile]
    | cons arg more =>
      have harg : Announces arg := hall arg List.mem_cons_self
      obtain rfl : more = [] := hread.ends arg more rfl harg
      have hstart : Invocation.parse m.args = .start none :=
        hparse.trans (Invocation.ofArgs_valueless harg _)
      refine ⟨run_of_start hstart, iff_of_false (fun hlast => ?_) (List.cons_ne_nil arg [])⟩
      obtain ⟨last, -, hsome, -⟩ := hlast (Or.inr (List.cons_ne_nil arg []))
      cases hstart.symm.trans hsome

/-- An option at the end without a file: the program starts as if it had been given none. -/
theorem run_forgets :
    IsRead ["--config", "gateway.toml", "-c"] [("--config", "gateway.toml")] ["-c"] ∧
      Announces "-c" ∧
      Invocation.parse ["--config", "gateway.toml", "-c"] = .start none ∧
      (run { args := ["--config", "gateway.toml", "-c"] }).stderr =
        "portico-gateway: invalid configuration: missing required configuration field: API_URL\n" ∧
      (run { args := ["--config", "gateway.toml"] }).stderr =
        "portico-gateway: failed to load gateway.toml: config file gateway.toml does not " ++
          "exist\n" := by
  have hread : IsRead ["--config", "gateway.toml", "-c"] [("--config", "gateway.toml")] ["-c"] :=
    ⟨rfl, by decide, fun _ _ hrest _ => (List.cons.inj hrest).2.symm⟩
  refine ⟨hread, by decide, by decide, ?_, ?_⟩ <;> decide +kernel

end CommandLine
end Gatehouse
