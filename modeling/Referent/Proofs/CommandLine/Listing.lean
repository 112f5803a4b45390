import Referent.CommandLine.Run
import Referent.Proofs.Codecs
import Referent.Proofs.Resolution.EarlyStop

/-!
# Listing a class

There are two commands that list the members of a class: `members`, and `resolve` without a name.
The second goes through a reference, delegates and a visitor. Without a name none of these has a
say, except that the visitor may have a limit.

* `Query.ListsAll`: the query has no name, wants a document, and its argument types can be read.
* `Output.Shows`: the run succeeded, and what it wrote is one document.
* `Action.Atomic`: the action writes nothing if it fails.

Results:
* `Command.atomic_action`, `Command.run_stdout_of_failed`: no command writes its first line before
  all that can fail, so that a run that fails writes no document.
* `Query.resolve_of_name_eq_none`: what a resolution without a name collects.
* `run_resolve_iff_members`: both commands fail on the same files, and on all others the second
  shows what the first does, up to its limit.
-/

namespace Referent

namespace CommandLine

open Json (Portable)

/-! ## Runs -/

/-- The run succeeded, and what it wrote is one document. -/
structure Output.Shows (output : Output) (v : Json) : Prop where
  exit : output.exit = 0
  stdout : output.stdout = unlines [v.pretty]
  read : Json.read output.stdout = ⟨v, true⟩

theorem Output.Shows.unique {output : Output} {v w : Json} (hv : output.Shows v)
    (hw : output.Shows w) : v = w :=
  congrArg Json.Document.root (hv.read.symm.trans hw.read)

/-- A document and the line break behind it are read as the document. -/
theorem read_unlines_pretty {room : ℕ} {v : Json} (h : Portable room v) :
    Json.read (unlines [v.pretty]) = ⟨v, true⟩ := by
  have htext : (unlines [v.pretty]).toList = v.pretty.toList ++ ['\n'] := by
    simp [unlines, String.join]
  exact Json.read_of_layout_append htext h.layout_pretty (by simp [Json.Spaces, Json.isSpace])

namespace Action

/-- The action writes nothing if it fails. -/
def Atomic (action : Action) : Prop :=
  ∀ lines failure, (action.perform lines).1 = .error failure → (action.perform lines).2 = lines

theorem atomic_writeLines (lines : List String) : Atomic (writeLines lines) := by
  intro _ _ h
  cases h

/-- What is done before the first line may fail. -/
theorem atomic_ofExcept_bind {α : Type} {x : Except Failure α} {f : α → Action}
    (hf : ∀ a, Atomic (f a)) : Atomic (MonadExcept.ofExcept x >>= f) := by
  cases x with
  | error failure =>
    intro _ _ _
    rfl
  | ok a => exact hf a

/-- What an action leaves that writes all of its lines at the end, if it gets there. -/
def atEnd : Except Failure (List String) → Except Failure Unit × List String
  | .error failure => (.error failure, [])
  | .ok lines => (.ok (), lines)

end Action

namespace Command

variable {content : Option String} {c : Command}

/-- A command writes its first line behind all that can fail. -/
theorem atomic_action (content : Option String) (c : Command) : (c.action content).Atomic := by
  cases c with
  | resolve q =>
    refine Action.atomic_ofExcept_bind fun opened => Action.atomic_ofExcept_bind fun reference => ?_
    rcases q.resolve opened reference with ⟨outcome, candidates⟩
    dsimp only
    split_ifs
    · exact Action.atomic_writeLines _
    · exact Action.atomic_writeLines _
    · intro _ _ h
      cases h
    · exact Action.atomic_writeLines _
  | members path type json =>
    refine Action.atomic_ofExcept_bind fun opened => ?_
    dsimp only
    split_ifs <;> exact Action.atomic_writeLines _
  | schema => exact Action.atomic_writeLines _

theorem run_exit_eq_zero_iff :
    (c.run content).exit = 0 ↔ ∃ lines, (c.action content).perform [] = (.ok (), lines) := by
  unfold run
  rcases (c.action content).perform [] with ⟨_ | _, lines⟩ <;> simp

/-- A command whose lines are those of an opened universe succeeds if the universe can be opened. -/
theorem run_exit_eq_zero_iff_of_map {load : Except Failure Opened} {lines : Opened → List String}
    (h : (c.action content).perform [] = Action.atEnd (load.map lines)) :
    (c.run content).exit = 0 ↔ ∃ opened, load = .ok opened := by
  rw [run_exit_eq_zero_iff, h]
  cases load with
  | error failure => simp [Except.map, Action.atEnd]
  | ok opened => simp [Except.map, Action.atEnd]

/-- A run that fails writes nothing but its error. -/
theorem run_stdout_of_failed (h : (c.run content).exit ≠ 0) : (c.run content).stdout = "" := by
  have hatomic := c.atomic_action content []
  rw [ne_eq, run_exit_eq_zero_iff] at h
  unfold run
  rcases hperform : (c.action content).perform [] with ⟨failure | _, lines⟩
  · rw [hperform] at hatomic
    obtain rfl : lines = [] := hatomic failure rfl
    rfl
  · exact absurd ⟨lines, hperform⟩ h

theorem run_shows {room : ℕ} {v : Json}
    (hlines : (c.action content).perform [] = Action.atEnd (.ok [v.pretty]))
    (hv : Portable room v) : (c.run content).Shows v := by
  unfold run
  rw [hlines]
  exact ⟨rfl, rfl, read_unlines_pretty hv⟩

end Command

/-! ## Members in documents -/

theorem portable_members (members : List Member) :
    Portable 4 (.array (members.map (·.toJson))) :=
  .list fun m _ => m.portable

theorem portable_report (type : String) (outcome : Outcome) (candidates : List Member) :
    Portable 5 (report type outcome candidates) :=
  .record (by simp [Portable.string, Portable.bool, portable_members])

/-! ## Resolutions without a name -/

namespace Query

/-- The query lists members in a document: it has no name to look for, and the types of its
arguments, if there are any, can be read. -/
structure ListsAll (q : Query) : Prop where
  name : q.name = none
  json : q.json = true
  call : ∀ texts, q.call = some texts → ∀ text ∈ texts, ∃ t, TypeExpr.parse text = .ok t

variable {q : Query}

theorem exists_reference
    (hcall : ∀ texts, q.call = some texts → ∀ text ∈ texts, ∃ t, TypeExpr.parse text = .ok t) :
    ∃ reference, q.reference = .ok reference := by
  unfold reference
  cases hq : q.call with
  | none => exact ⟨_, rfl⟩
  | some texts =>
    obtain ⟨types, htypes⟩ := exists_mapM_eq_ok (hcall texts hq)
    exact ⟨_, by simp only [htypes]; rfl⟩

/-- Without a name all members are candidates. All are collected unless there is a limit, and then
so many from the front, but one at least. -/
theorem resolve_of_name_eq_none (hname : q.name = none) (opened : Opened) (reference : Reference) :
    let members := opened.store.system.visibleMembers q.type
    let result := q.resolve opened reference
    (result.1.resolved = true ↔ result.2 ≠ []) ∧
      (q.limit = none → result.1.shouldContinue = true ∧ result.2 = members) ∧
      ∀ limit, q.limit = some limit → result.2 = members.take (max limit.toNat 1) ∧
        (result.1.shouldContinue = false ↔ max limit.toNat 1 ≤ members.length) := by
  intro members result
  have hresult : result =
      (⟨((collect (q.limit.map (·.toNat))).visit members []).1 == .proceed, !members.isEmpty⟩,
        ((collect (q.limit.map (·.toNat))).visit members []).2) := by
    have hprocess : result = _ := Resolver.process_eq_visit _ _ _ _ _ _
    rw [hprocess, hname]
    rfl
  rw [hresult]
  cases q.limit with
  | none =>
    rw [Option.map_none, visit_collect_none]
    simp
  | some limit =>
    have hempty : ([] : List Member).length < max limit.toNat 1 := by
      rw [List.length_nil]
      omega
    simp only [Option.map_some, visit_collect _ members [] hempty, Option.some.injEq,
      forall_eq', reduceCtorEq, false_implies, true_and]
    generalize max limit.toNat 1 = least at hempty ⊢
    have hleast : least ≠ 0 := Nat.ne_of_gt hempty
    by_cases h : least ≤ members.length
    · simp [h, hleast]
    · simp [h, hleast]

end Query

/-! ## Both commands -/

variable {q : Query}

/-- Once the universe is open, the command `members` cannot fail. -/
theorem perform_members (path type : String) (content : Option String) :
    ((Command.members path type true).action content).perform [] =
      Action.atEnd ((Opened.load path type content).map fun opened =>
        [(Json.array ((opened.store.system.visibleMembers type).map (·.toJson))).pretty]) := by
  show (runMembers path type true content).perform [] = _
  unfold runMembers
  cases Opened.load path type content with
  | error failure => rfl
  | ok opened => rfl

/-- Nor can a resolution whose argument types can be read. -/
theorem perform_resolve (hjson : q.json = true) {reference : Reference}
    (hreference : q.reference = .ok reference) (content : Option String) :
    ((Command.resolve q).action content).perform [] =
      Action.atEnd ((Opened.load q.file q.type content).map fun opened =>
        let result := q.resolve opened reference
        [(report q.type result.1 result.2).pretty]) := by
  show (runResolve q content).perform [] = _
  unfold runResolve
  rw [hreference, hjson]
  cases Opened.load q.file q.type content with
  | error failure => rfl
  | ok opened => rfl

theorem run_eq_of_parse {args : List String} {c : Command} (h : parse args = .ok c)
    (file : String → Option String) : run args file = c.run (c.path?.bind file) := by
  rw [run, h]

/-- A resolution without a name and the command `members` fail on the same files, and then write no
document. On all others the one writes the members that the other writes. With a limit it writes so
many from the front, but one at least, and does not go on if there are as many. -/
theorem run_resolve_iff_members {args args' : List String}
    (hargs : parse args = .ok (.resolve q))
    (hargs' : parse args' = .ok (.members q.file q.type true)) (hlists : q.ListsAll)
    (file : String → Option String) :
    let resolved := run args file
    let listed := run args' file
    (resolved.exit = 0 ↔ listed.exit = 0) ∧
      (resolved.exit ≠ 0 → resolved.stdout = "") ∧ (listed.exit ≠ 0 → listed.stdout = "") ∧
      (listed.exit = 0 → ∃ items candidates shouldContinue isResolved,
        listed.Shows (.array items) ∧
          resolved.Shows (.record [("class", .string q.type),
            ("should_continue", .bool shouldContinue), ("resolved", .bool isResolved),
            ("candidates", .array candidates)]) ∧
          (isResolved = true ↔ candidates ≠ []) ∧
          (q.limit = none → candidates = items ∧ shouldContinue = true) ∧
          ∀ limit, q.limit = some limit → candidates = items.take (max limit.toNat 1) ∧
            (shouldContinue = false ↔ max limit.toNat 1 ≤ items.length)) := by
  intro resolved listed
  obtain ⟨reference, hreference⟩ := Query.exists_reference hlists.call
  have hresolved : resolved = (Command.resolve q).run (file q.file) := run_eq_of_parse hargs file
  have hlisted : listed = (Command.members q.file q.type true).run (file q.file) :=
    run_eq_of_parse hargs' file
  have hlines := perform_resolve hlists.json hreference (file q.file)
  have hlines' := perform_members q.file q.type (file q.file)
  have hopens := Command.run_exit_eq_zero_iff_of_map hlines
  have hopens' := Command.run_exit_eq_zero_iff_of_map hlines'
  rw [hresolved, hlisted]
  refine ⟨hopens.trans hopens'.symm, Command.run_stdout_of_failed, Command.run_stdout_of_failed, ?_⟩
  intro hexit
  obtain ⟨opened, hload⟩ := hopens'.1 hexit
  rw [hload] at hlines hlines'
  obtain ⟨hisResolved, hall, hsome⟩ := Query.resolve_of_name_eq_none hlists.name opened reference
  refine ⟨_, _, _, _, Command.run_shows hlines' (portable_members _),
    Command.run_shows hlines (portable_report _ _ _), ?_, ?_, ?_⟩
  · rw [hisResolved, ne_eq, ne_eq, List.map_eq_nil_iff]
  · intro hlimit
    obtain ⟨hcontinue, hcandidates⟩ := hall hlimit
    exact ⟨by rw [hcandidates], hcontinue⟩
  · intro limit hlimit
    obtain ⟨hcandidates, hcontinue⟩ := hsome limit hlimit
    rw [hcandidates, List.map_take, List.length_map]
    exact ⟨rfl, hcontinue⟩

/-! ## A script with two tasks -/

/-- A script that declares `clean` and `build`. -/
def taskUniverse : Universe where
  imports := []
  types := [
    { TypeDecl.ofClass "a.Script" with
      members := [.method "a.Script" "clean" [] .void, .method "a.Script" "build" [] .void] }]
  closures := []

theorem parsed_taskUniverse : Universe.codec.Parsed taskUniverse := by
  have hvoid : TypeExpr.WellFormed .void := .basic (.inl (by decide))
  have htypes : Universe.codec.types taskUniverse = [.void, .void] := rfl
  rw [Codec.Parsed, htypes]
  simpa using ⟨_, hvoid.parse_text⟩

theorem load_taskUniverse :
    Opened.load "u.json" "a.Script" (some taskUniverse.toJson.pretty) =
      .ok ⟨taskUniverse, ⟨taskUniverse.types⟩⟩ := by
  have hread : Json.decodeText Universe.ofJson taskUniverse.toJson.pretty = .ok taskUniverse := by
    rw [Json.decodeText_pretty _ (taskUniverse.portable.mono (by decide)),
      Universe.ofJson_toJson parsed_taskUniverse]
  have hstore : taskUniverse.store = .ok ⟨taskUniverse.types⟩ := by rfl
  rw [Opened.load, Option.elim]
  simp only [ok_bind, hread, hstore, Except.mapError]
  rfl

/-- A resolution of a written call in a block, without a name. -/
def taskQuery : Query where
  file := "u.json"
  type := "a.Script"
  name := none
  write := true
  call := some ["int"]
  closures := [3]
  block := some "repositories"
  candidates := 2
  limit := some 1
  json := true

/-- The command line of the query. -/
def taskArgs : List String :=
  ["resolve", "--universe", "u.json", "--class", "a.Script", "--write", "--call", "int",
    "--closure", "3", "--block", "repositories", "--candidates", "2", "--limit", "1", "--json"]

/-- A write and a call in a block do not change what a resolution without a name lists. With the
limit one it lists `clean` only. -/
theorem run_resolve_iff_members_task :
    let args := ["members", "--universe", "u.json", "--class", "a.Script", "--json"]
    let file := fun _ : String => some taskUniverse.toJson.pretty
    let clean := Member.method "a.Script" "clean" [] .void
    let build := Member.method "a.Script" "build" [] .void
    parse taskArgs = .ok (.resolve taskQuery) ∧
      parse args = .ok (.members "u.json" "a.Script" true) ∧ taskQuery.ListsAll ∧
      (run args file).Shows (.array [clean.toJson, build.toJson]) ∧
      (run taskArgs file).Shows (.record [("class", .string "a.Script"),
        ("should_continue", .bool false), ("resolved", .bool true),
        ("candidates", .array [clean.toJson])]) := by
  intro args file clean build
  have hargs : parse taskArgs = .ok (.resolve taskQuery) := by decide +kernel
  have hargs' : parse ["members", "--universe", "u.json", "--class", "a.Script", "--json"] =
      .ok (.members "u.json" "a.Script" true) := by
    decide +kernel
  have hint : TypeExpr.WellFormed (.basic "int") := .basic (.inl (by decide))
  have hlists : taskQuery.ListsAll := by
    refine ⟨rfl, rfl, ?_⟩
    rintro _ ⟨⟩ text htext
    obtain rfl : text = "int" := List.mem_singleton.1 htext
    exact ⟨_, hint.parse_text⟩
  have hlisted : (run args file).Shows (.array [clean.toJson, build.toJson]) := by
    have hmembers : (TypeStore.mk taskUniverse.types).system.visibleMembers "a.Script" =
        [clean, build] := by cbv
    have hlines : ((Command.members "u.json" "a.Script" true).action
        (some taskUniverse.toJson.pretty)).perform [] =
          Action.atEnd (.ok [(Json.array ([clean, build].map (·.toJson))).pretty]) := by
      rw [perform_members, load_taskUniverse, Except.map, hmembers]
    rw [run_eq_of_parse hargs']
    exact Command.run_shows hlines (portable_members [clean, build])
  obtain ⟨-, -, -, hshows⟩ := run_resolve_iff_members hargs hargs' hlists file
  obtain ⟨items, candidates, shouldContinue, isResolved, hitems, hcandidates, hresolved, -,
    hlimit⟩ := hshows hlisted.exit
  obtain rfl : items = [clean.toJson, build.toJson] :=
    Json.array.inj (hitems.unique hlisted)
  obtain ⟨rfl, hcontinue⟩ := hlimit 1 rfl
  obtain rfl : shouldContinue = false := hcontinue.2 (by decide)
  obtain rfl : isResolved = true := hresolved.2 (List.cons_ne_nil _ _)
  exact ⟨hargs, hargs', hlists, hlisted, hcandidates⟩

end CommandLine

end Referent
