import LetterMachine.Proofs.Command
import LetterMachine.Proofs.Endless
import LetterMachine.Proofs.Report
import LetterMachine.Proofs.Server
import LetterMachine.Settings

/-!
The service and the command. A request to run a source text is answered with what the command does
on a file that holds the text, as long as the limit of the service is not reached.
-/

namespace LetterMachine

theorem RunFault.report_of_ip {f : RunFault} {d : Diagnostic} {ip : Int}
    (h : f.report = .diagnostic d) (hip : d.ip? = some ip) :
    ∃ i cause, f = .failed ip i cause ∧
      d = ⟨cause.kind, cause.detail i, .program (some ip) (some i.shown)⟩ := by
  unfold report at h
  split at h
  · cases h
  · cases f with
    | failed ip' i cause =>
        cases h
        cases hip
        exact ⟨i, cause, rfl, rfl⟩
    | halted | ipOutside | stepLimit =>
        cases h
        cases hip
    | unshowable => cases h

theorem AssemblyFault.place_of_report {f : AssemblyFault} {d : Diagnostic}
    (h : f.report = .diagnostic d) : d.place = .source (some f.line) (some f.text) := by
  unfold report LineFault.report at h
  split at h
  · cases h
  · cases h
    rfl

theorem Diagnostic.message_of_source {d : Diagnostic} {n : Int} {text : Option Text}
    (h : d.place = .source (some n) text) :
    "Line ".toList ++ Text.ofInt n ++ ": ".toList ++ d.detail <+: d.message := by
  unfold message
  rw [h]
  exact List.prefix_append _ _

theorem Command.ended_complaint (verbose : Bool) (d : Diagnostic) :
    ended (complaint verbose (.diagnostic d)) = "Error: ".toList ++ d.message ++ ['\n'] := by
  simp [ended, complaint]

namespace Machine

variable {code : List Instruction} {verbose : Bool} {m m' : Machine} {ip : Int} {i : Instruction}
  {cause : FaultCause}

theorem Stepped.fetched_of_failed
    (h : Stepped code verbose m (.error (.failed ip i cause)) m') :
    ip = m.ip ∧ fetch code m.ip = some i := by
  cases h with
  | operand _ hfetch _ => exact ⟨rfl, hfetch⟩
  | failed hready _ => exact ⟨rfl, hready.fetched⟩

theorem fetch_of_failed {limit : Option Int}
    (h : run code verbose limit m = (.failed (.failed ip i cause), m')) :
    fetch code ip = some i := by
  cases ran_of_run h with
  | failed _ _ _ hstep =>
      obtain ⟨rfl, hfetch⟩ := (stepped_of_run hstep).fetched_of_failed
      exact hfetch

/-- A run that fails at an instruction is reported by a diagnostic with its index. -/
theorem InRange.report_of_failed {limit : Option Int} (hm : InRange m)
    (hcode : ∀ i ∈ code, i.Canonical)
    (h : run code verbose limit m = (.failed (.failed ip i cause), m')) :
    ∃ d, (RunFault.failed ip i cause).report = .diagnostic d ∧ d.ip? = some ip := by
  cases ran_of_run h with
  | failed htrail _ hrunning hstep =>
      have hstepped := stepped_of_run hstep
      obtain ⟨rfl, hfetch⟩ := hstepped.fetched_of_failed
      have hbefore := (kept_inRange code verbose).trail htrail hm
      obtain ⟨_, -, hreport⟩ :=
        hstepped.report hrunning hbefore hfetch (hcode i (mem_of_fetch hfetch))
      exact ⟨_, hreport, rfl⟩

end Machine

namespace Service

def Response.field? (a : Response) (name : String) : Option Json :=
  a.body.bind fun j => j.field? name.toList

theorem Json.ofInt?_eq_int {n? : Option Int} {n : Int} (h : ofInt? n? = .int n) :
    n? = some n := by
  cases n? with
  | none => cases h
  | some n' =>
      cases h
      rfl

theorem title_ne {title title' : String} (hne : title.toList ≠ title'.toList)
    (h : some (Json.str title.toList) = some (Json.str title'.toList)) : False :=
  hne (Json.str.inj (Option.some.inj h))

variable {a : Response} {limit : Int} {t : Text} {strict : Bool}

theorem exists_of_task {depth : Nat} {bytes : List UInt8} {t : Text} {strict : Bool}
    (h : (Json.ofBytes depth bytes).toOption.bind Task.ofJson? = some ⟨t, strict⟩) :
    ∃ j, Json.ofBytes depth bytes = .ok j ∧ j.field? "source".toList = some (.str t) ∧
      ((j.field? "strict".toList).map Json.isTrue).getD false = strict := by
  cases hread : Json.ofBytes depth bytes with
  | error fault =>
      rw [hread] at h
      cases h
  | ok j =>
      rw [hread] at h
      have htask : Task.ofJson? j = some ⟨t, strict⟩ := h
      unfold Task.ofJson? at htask
      split at htask
      · rename_i hsource
        cases htask
        exact ⟨j, rfl, hsource, rfl⟩
      · cases htask

theorem view_post {j : Json} (hsource : j.field? "source".toList = some (.str t))
    (hstrict : ((j.field? "strict".toList).map Json.isTrue).getD false = strict)
    (f : Program → Except Escape Response) :
    view f ⟨"POST".toList, .ok j⟩ = Task.withProgram ⟨t, strict⟩ f := by
  have htask : Task.ofJson? j = some ⟨t, strict⟩ := by rw [Task.ofJson?, hsource, hstrict]
  have hmethod : ¬"POST".toList = "OPTIONS".toList := by decide
  rw [view, if_neg hmethod]
  dsimp only [bind, Except.bind]
  rw [htask]

theorem execute_of_halted {p : Program} {m : Machine}
    (h : Machine.run p.instructions false (some limit) {} = (.halted, m)) :
    execute limit p = .ok (.executed m) := by
  unfold execute
  rw [h]

theorem execute_of_failed {p : Program} {m : Machine} {f : RunFault}
    (h : Machine.run p.instructions false (some limit) {} = (.failed f, m)) :
    execute limit p = match f.report with
      | .diagnostic d => .ok (.runFailed d m)
      | .mishap _ => .error .broken := by
  cases hreport : f.report <;> simp only [execute, h, hreport]

theorem run_ne_endless (p : Program) (limit : Int) :
    (Machine.run p.instructions false (some limit) {}).1 ≠ .endless := by
  intro h
  rcases hrun : Machine.run p.instructions false (some limit) {} with ⟨ending, m⟩
  rw [hrun] at h
  cases h
  cases Machine.ran_of_run hrun with
  | endless hlimit _ _ _ => cases hlimit

/-- The request posts a text to be run: its content is JSON within the limit, an object that has the
text as its source, and a value for strictness that counts as the given one. -/
structure Posts {ε : Type} (server : Framework ε) (r : Request) (t : Text) (strict : Bool) :
    Prop where
  method_eq : r.method = "POST".toList
  address_eq : r.address = "/api/run".toList
  isJson : ∃ type, r.contentType = some type ∧ server.isJson type = true
  length_le : r.content.length ≤ 1048576
  content : ∃ j, Json.ofBytes server.depth r.content = .ok j ∧
    j.field? "source".toList = some (.str t) ∧
    ((j.field? "strict".toList).map Json.isTrue).getD false = strict

/-- Which answer a text is given: one says that it does not assemble, one that its program has
halted, and one that an instruction of the program fails, and which. -/
structure Answers (t : Text) (strict : Bool) (limit : Int) (a : Response) : Prop where
  unassembled : ∀ f d, (assemble ⟨false, strict⟩ t).result = .error f →
    f.report = .diagnostic d →
      a.status = 400 ∧ a.field? "error" = some (.str "Assembly failed".toList)
  halted : ∀ p m, (assemble ⟨false, strict⟩ t).result = .ok p →
    Machine.run p.instructions false (some limit) {} = (.halted, m) → a.status = 200
  failed : ∀ p m ip i cause, (assemble ⟨false, strict⟩ t).result = .ok p →
    Machine.run p.instructions false (some limit) {} = (.failed (.failed ip i cause), m) →
      a.status = 400 ∧ a.field? "error" = some (.str "Execution failed".toList) ∧
        a.field? "ip" = some (.int ip)

/-- What the command leaves behind agrees with an answer. Where the answer has the output of a
program, the command has printed it. Where it says that assembling failed, the command says the same
of the same line. And where it says that an instruction failed, the command has printed what was put
out before, and names the instruction. -/
structure Corresponds (t : Text) (strict : Bool) (a : Response) (outcome : Command.Outcome) :
    Prop where
  finished : a.status = 200 → ∃ lines : List Text,
    a.field? "output" = some (.array (lines.map .str)) ∧ outcome.exit.code? = some 0 ∧
      outcome.printed = lines.flatMap (fun l => l ++ ['\n']) ∧ outcome.said = []
  unassembled : a.status = 400 → a.field? "error" = some (.str "Assembly failed".toList) →
    ∃ n d, a.field? "line" = some (.int n) ∧ a.field? "message" = some (.str d) ∧
      outcome.exit.code? = some 1 ∧ outcome.printed = [] ∧
      "Error: Line ".toList ++ Text.ofInt n ++ ": ".toList ++ d <+: outcome.said
  failed : a.status = 400 → a.field? "error" = some (.str "Execution failed".toList) →
    ∀ ip, a.field? "ip" = some (.int ip) →
      ∃ (p : Program) (i : Instruction) (lines : List Text) (d : Text),
        (assemble ⟨false, strict⟩ t).result = .ok p ∧
        Machine.fetch p.instructions ip = some i ∧
        a.field? "output" = some (.array (lines.map .str)) ∧
        a.field? "message" = some (.str d) ∧
        outcome.exit.code? = some 1 ∧ outcome.printed = lines.flatMap (fun l => l ++ ['\n']) ∧
        outcome.said = "Error: Instruction ".toList ++ Text.ofInt ip ++ " (".toList ++ i.shown ++
          "): ".toList ++ d ++ ['\n']

variable {files : Files.Tree} {m : Machine} {d : Diagnostic}

theorem withProgram_of_ok {p : Program} (hp : (assemble ⟨false, strict⟩ t).result = .ok p)
    (f : Program → Except Escape Response) : Task.withProgram ⟨t, strict⟩ f = f p := by
  simp only [Task.withProgram, hp]

theorem withProgram_of_error {f : AssemblyFault}
    (hf : (assemble ⟨false, strict⟩ t).result = .error f)
    (g : Program → Except Escape Response) :
    Task.withProgram ⟨t, strict⟩ g = match f.report with
      | .diagnostic d => .ok (.error 400 "Assembly failed" d.detail d.line?)
      | .mishap _ => .error .broken := by
  cases hreport : f.report <;> simp only [Task.withProgram, hf, hreport]

theorem answers_view (t : Text) (strict : Bool) (limit : Int) :
    Answers t strict limit (.ofView (Task.withProgram ⟨t, strict⟩ (execute limit))) where
  unassembled f d hf hreport := by
    rw [withProgram_of_error hf, hreport]
    exact ⟨rfl, rfl⟩
  halted p m hp hrun := by
    rw [withProgram_of_ok hp, execute_of_halted hrun]
    rfl
  failed p m ip i cause hp hrun := by
    have hcode := (Program.wellFormed_of_assemble hp).canonical
    obtain ⟨d, hreport, hip⟩ := Machine.inRange_new.report_of_failed hcode hrun
    rw [withProgram_of_ok hp, execute_of_failed hrun, hreport]
    refine ⟨rfl, rfl, ?_⟩
    change some (Json.ofInt? d.ip?) = _
    rw [hip]
    rfl

theorem corresponds_broken (outcome : Command.Outcome) :
    Corresponds t strict (.ofView (.error .broken)) outcome where
  finished := nofun
  unassembled := nofun
  failed := nofun

theorem corresponds_fault {f : AssemblyFault} (hreport : f.report = .diagnostic d) :
    Corresponds t strict (.error 400 "Assembly failed" d.detail d.line?)
      ⟨.failed, [], Command.ended (Command.complaint false (.diagnostic d)), files⟩ where
  finished := nofun
  unassembled _ _ := by
    have hplace := f.place_of_report hreport
    have hline : d.line? = some (f.line : Int) := by rw [Diagnostic.line?, hplace]
    have hmessage := Diagnostic.message_of_source hplace
    have htitle : "Error: Line ".toList = "Error: ".toList ++ "Line ".toList := by rfl
    rw [hline]
    refine ⟨f.line, d.detail, rfl, rfl, rfl, rfl, ?_⟩
    dsimp only
    rw [Command.ended_complaint, htitle]
    simp only [List.append_assoc] at hmessage ⊢
    exact (List.prefix_append_right_inj _).mpr (hmessage.trans (List.prefix_append _ _))
  failed _ h := (title_ne (by decide) h).elim

theorem corresponds_halted :
    Corresponds t strict (.executed m) ⟨.done, Command.ended m.output.toList, [], files⟩ where
  finished _ := ⟨m.output.toList, rfl, rfl, rfl, rfl⟩
  unassembled := nofun
  failed := nofun

theorem corresponds_failed (files : Files.Tree) {p : Program} {f : RunFault}
    (hp : (assemble ⟨false, strict⟩ t).result = .ok p) {most : Option Int}
    (hrun : Machine.run p.instructions false most {} = (.failed f, m))
    (hreport : f.report = .diagnostic d) {outcome : Command.Outcome}
    (houtcome : d.ip?.isSome → outcome =
      ⟨.failed, Command.ended m.output.toList,
        Command.ended (Command.complaint false (.diagnostic d)), files⟩) :
    Corresponds t strict (.runFailed d m) outcome where
  finished := nofun
  unassembled _ h := (title_ne (by decide) h).elim
  failed _ _ ip hip := by
    have hsome := Json.ofInt?_eq_int (Option.some.inj hip)
    rw [houtcome (by rw [hsome]; rfl)]
    obtain ⟨i, cause, rfl, rfl⟩ := RunFault.report_of_ip hreport hsome
    refine ⟨p, i, m.output.toList, cause.detail i, hp, Machine.fetch_of_failed hrun, rfl, rfl, rfl,
      rfl, ?_⟩
    dsimp only
    rw [Command.ended_complaint]
    simp [Diagnostic.message]

/-- The command does on a file what the view does with the text of the file. -/
theorem corresponds_view (loader : Yaml.Loader) {path : Text} (hfile : files.Stores path t)
    (ht : '\r' ∉ t) (limit : Int) :
    Corresponds t strict (.ofView (Task.withProgram ⟨t, strict⟩ (execute limit)))
      (Command.follow loader { input := path, strict := strict } files) := by
  cases hresult : (assemble ⟨false, strict⟩ t).result with
  | error f =>
      rw [withProgram_of_error hresult, Command.follow_of_fault hfile ht hresult]
      cases hreport : f.report with
      | mishap m => exact corresponds_broken _
      | diagnostic d => exact corresponds_fault hreport
  | ok p =>
      rw [withProgram_of_ok hresult]
      rcases hrun : Machine.run p.instructions false (some limit) {} with ⟨ending, m⟩
      cases ending with
      | endless => exact absurd (congrArg Prod.fst hrun) (run_ne_endless p limit)
      | halted =>
          have hfree := Machine.run_none_of_run hrun nofun
          rw [execute_of_halted hrun, Command.follow_of_program hfile ht hresult hfree]
          exact corresponds_halted
      | failed f =>
          rw [execute_of_failed hrun]
          cases hreport : f.report with
          | mishap m => exact corresponds_broken _
          | diagnostic d =>
              refine corresponds_failed files hresult hrun hreport fun hsome => ?_
              -- a failing instruction is not the limit, so that the run is the same without one
              obtain ⟨ip, hip⟩ := Option.isSome_iff_exists.mp hsome
              obtain ⟨i, cause, rfl, -⟩ := RunFault.report_of_ip hreport hip
              have hfree := Machine.run_none_of_run hrun nofun
              rw [Command.follow_of_program hfile ht hresult hfree, ← hreport]
              rfl

theorem serve_of_posts {ε : Type} {server : Framework ε} (hserver : server.Documented) {r : Request}
    (hposts : Posts server r t strict) (limit : Int) :
    server.serve (application limit) r =
      .ok (.shared (.ofView (Task.withProgram ⟨t, strict⟩ (execute limit)))) := by
  obtain ⟨type, htype, hjson⟩ := hposts.isJson
  obtain ⟨j, hcontent, hsource, hstrict⟩ := hposts.content
  rw [hserver.serve_eq (application limit) .run r type j hposts.method_eq hposts.address_eq htype
    hjson hposts.length_le hcontent, ← view_post hsource hstrict]
  rfl

end Service

open Service in
/-- Served by any framework that does what it documents, the application answers a request to run a
text as the command does with a file that holds the text, whatever limit of steps the application
has. -/
theorem command_of_serve {ε : Type} {server : Framework ε} (hserver : server.Documented)
    (loader : Yaml.Loader) (limit : Int) {r : Service.Request} {t path : Text} {strict : Bool}
    {args : List Text} {files : Files.Tree} (ht : '\r' ∉ t)
    (hargs : Command.Request.ofTexts args = .ok { input := path, strict := strict })
    (hfile : files.Stores path t) (hposts : Posts server r t strict) :
    ∃ a, server.serve (application limit) r = .ok a ∧ Answers t strict limit a ∧
      Corresponds t strict a (Command.runWith loader args files) := by
  rw [Command.runWith_of_request hargs files]
  have hanswers := answers_view t strict limit
  have hcorresponds : Corresponds t strict
      (.ofView (Task.withProgram ⟨t, strict⟩ (execute limit))) _ :=
    corresponds_view loader hfile ht limit
  -- what is done to every answer changes neither its status nor its content
  exact ⟨_, serve_of_posts hserver hposts limit,
    ⟨hanswers.unassembled, hanswers.halted, hanswers.failed⟩,
    ⟨hcorresponds.finished, hcorresponds.unassembled, hcorresponds.failed⟩⟩

open Service in
theorem command_of_serve_division :
    let t : Text := "inc a\nprint a\ndiv a, b".toList
    let files : Files.Tree :=
      ⟨[([], .directory), (["p".toList], .file (Text.Utf8.encode t))], []⟩
    let r : Service.Request :=
      { address := "/api/run".toList
        contentType := some "application/json".toList
        content := Text.Utf8.encode
          "\x7b\"source\": \"inc a\\nprint a\\ndiv a, b\", \"strict\": true\x7d".toList }
    let outcome := Command.runWith Yaml.standard ["--strict".toList, "p".toList] files
    ∃ a, (server 978).serve (application 100) r = .ok a ∧ Corresponds t true a outcome ∧
      a.status = 400 ∧ a.field? "error" = some (.str "Execution failed".toList) ∧
      a.field? "message" = some (.str "Division by zero".toList) ∧
      a.field? "ip" = some (.int 2) ∧ a.field? "output" = some (.array [.str "a: 1".toList]) ∧
      outcome.exit.code? = some 1 ∧ outcome.printed = "a: 1\n".toList ∧
      outcome.said = "Error: Instruction 2 (DIV(0, 1)): Division by zero\n".toList := by
  intro t files r outcome
  have hposts : Posts (server 978) r t true :=
    ⟨rfl, rfl, ⟨_, rfl, (server_documented 978).isJson_json⟩, by decide +kernel,
      exists_of_task (by decide +kernel)⟩
  have hfile : files.Stores "p".toList t := ⟨by decide, by rfl⟩
  have hargs : Command.Request.ofTexts ["--strict".toList, "p".toList] =
      .ok { input := "p".toList, strict := true } := (Command.Request.ofTexts_path (by decide)).2
  obtain ⟨a, ha, hanswers, hcorresponds⟩ :=
    command_of_serve (server_documented 978) Yaml.standard 100 (by decide) hargs hfile hposts
  have hprogram : (assemble ⟨false, true⟩ t).result =
      .ok ⟨[⟨.inc, 0, 0⟩, ⟨.print, 0, 0⟩, ⟨.div, 0, 1⟩, .halt], []⟩ := by rfl
  obtain ⟨hstatus, herror, hip⟩ :=
    hanswers.failed _ _ 2 ⟨.div, 0, 1⟩ .divisionByZero hprogram (by rfl)
  obtain ⟨p, i, lines, d, hp, hfetch, houtput, hmessage, hcode, hprinted, hsaid⟩ :=
    hcorresponds.failed hstatus herror 2 hip
  cases hprogram.symm.trans hp
  cases hfetch
  obtain rfl := Except.ok.inj
    (ha.symm.trans (serve_of_posts (server_documented 978) hposts 100))
  have hlines : ["a: 1".toList] = lines :=
    List.map_injective_iff.mpr (fun _ _ => Json.str.inj) (Json.array.inj (Option.some.inj houtput))
  subst hlines
  cases Json.str.inj (Option.some.inj hmessage)
  exact ⟨_, ha, hcorresponds, hstatus, herror, hmessage, hip, houtput, hcode, hprinted,
    hsaid.trans (by decide)⟩

end LetterMachine
