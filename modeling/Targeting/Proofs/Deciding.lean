import Targeting.Proofs.Cohorts
import Targeting.Proofs.Invocation
import Targeting.Proofs.Printing
import Targeting.Proofs.ReadFiles

/-!
# What a run comes to

The files are the stages of a run: the table of addresses if there is one, the criteria,
the request. Either each of them gives what it should, and the run prints the decision of
the engine, or the run stops at the first that does not (`Ends`). What is printed reads as
the record of the decision.
-/

namespace Targeting.Command

open Settings (Files)

variable {files : Files}

-- ---------------------------------------------------------------------------
-- Stages
-- ---------------------------------------------------------------------------

def Arguments.lastStages (a : Arguments) : List (Part × String) :=
  [(.criteria, a.criteria), (.request, a.request)]

/-- The files besides those of the settings, in the order in which they are read. -/
def Arguments.stages (a : Arguments) : List (Part × String) :=
  match a.geo with
  | some path => (.geo, path) :: a.lastStages
  | none => a.lastStages

/-- The first stage that fails, and the paths up to it. -/
inductive StopsAt (files : Files) : List (Part × String) → Failure → List String → Prop
  | here {part : Part} {path : String} {rest : List (Part × String)} {failure : Failure}
      (fails : part.Fails files path failure) :
    StopsAt files ((part, path) :: rest) failure [path]
  | later {part : Part} {path : String} {rest : List (Part × String)} {failure : Failure}
      {paths : List String} {value : part.Value} (found : part.Says files path value)
      (stops : StopsAt files rest failure paths) :
    StopsAt files ((part, path) :: rest) failure (path :: paths)

/-- Every file says what it should. -/
structure Gives (files : Files) (a : Arguments) (geo : Option Geo.Table) (tree : Tree)
    (request : Request) : Prop where
  geo : Option.Rel (fun path table => Part.geo.Says files path table) a.geo geo
  criteria : Part.criteria.Says files a.criteria tree
  request : Part.request.Says files a.request request

/-- The report on a failure, which comes after any other messages. -/
structure Report.Fails (report : Report) (failure : Failure) : Prop where
  code : report.code = 1
  output : report.output = ""
  message : report.messages.getLast? = some failure.message

theorem Report.Fails.after {report : Report} {failure : Failure} (h : report.Fails failure)
    (messages : List String) : (report.after messages).Fails failure := by
  refine ⟨h.code, h.output, ?_⟩
  show (messages ++ report.messages).getLast? = _
  rw [List.getLast?_append, h.message, Option.some_or]

structure Report.Prints (report : Report) (o : Outcome) : Prop where
  code : report.code = 0
  output : report.output = decisionText o ++ "\n"

/-- What a run comes to with these settings, and the paths that it has read then. -/
inductive Ends (files : Files) (settings : Settings) (a : Arguments) (report : Report)
    (paths : List String) : Prop
  | decided {geo : Option Geo.Table} {tree : Tree} {request : Request}
      (gives : Gives files a geo tree request) (asked : paths = a.stages.map (·.2))
      (prints : report.Prints ((engineOf settings geo).evaluate (some tree) request .fresh)) :
    Ends files settings a report paths
  | failed {failure : Failure} (stops : StopsAt files a.stages failure paths)
      (fails : report.Fails failure) : Ends files settings a report paths

variable {a : Arguments} {report : Report} {paths : List String} {settings : Settings}

theorem Ends.after (h : Ends files settings a report paths) (messages : List String) :
    Ends files settings a (report.after messages) paths := by
  cases h with
  | decided hgives hpaths hprints => exact .decided hgives hpaths ⟨hprints.code, hprints.output⟩
  | failed hstops hfails => exact .failed hstops (hfails.after messages)

-- ---------------------------------------------------------------------------
-- Running
-- ---------------------------------------------------------------------------

/-- From the criteria on. -/
theorem asks_decision (engine : Engine) (hregistry : engine.registry = .empty)
    (files : Files) (format : Log.Format) (a : Arguments) :
    (∃ tree request, Part.criteria.Says files a.criteria tree ∧
        Part.request.Says files a.request request ∧
        Asks (decision files.noting format engine a).run
          (.ok (evaluate format engine tree request)) [a.criteria, a.request]) ∨
      ∃ failure paths,
        StopsAt files a.lastStages failure paths ∧
        Asks (decision files.noting format engine a).run (.error failure) paths := by
  have hcriteria := asks_readCriteria files a.criteria hregistry
  have hrequest := asks_readRequest files a.request
  cases htree : Part.criteria.read files a.criteria with
  | error failure =>
    rw [htree] at hcriteria
    exact .inr ⟨failure, _, .here (Part.fails_of_read htree), hcriteria.bind_error⟩
  | ok tree =>
    rw [htree] at hcriteria
    have htree := Part.read_ok.mp htree
    cases hfound : Part.request.read files a.request with
    | error failure =>
      rw [hfound] at hrequest
      exact .inr ⟨failure, _, .later htree (.here (Part.fails_of_read hfound)),
        hcriteria.bind_ok hrequest.bind_error⟩
    | ok request =>
      rw [hfound] at hrequest
      exact .inl ⟨tree, request, htree, Part.read_ok.mp hfound,
        hcriteria.bind_ok (hrequest.bind_ok (asks_pure _))⟩

theorem asks_withGeo (files : Files) (format : Log.Format) (settings : Settings) (a : Arguments) :
    ∃ report paths, Asks (withGeo files.noting format settings a) report paths ∧
      Ends files settings a report paths := by
  rw [withGeo]
  cases hgeo : a.geo with
  | none =>
    have hstages : a.stages = a.lastStages := by rw [Arguments.stages, hgeo]
    obtain ⟨tree, request, htree, hrequest, hasks⟩ | ⟨failure, paths, hstops, hasks⟩ :=
      asks_decision (engineOf settings none) rfl files format a
    · have hgives : Gives files a none tree request := ⟨hgeo ▸ .none, htree, hrequest⟩
      exact ⟨_, _, hasks.bind (asks_pure _), .decided hgives (by rw [hstages]; rfl) ⟨rfl, rfl⟩⟩
    · rw [← hstages] at hstops
      refine ⟨_, _, hasks.bind (asks_pure _), .failed ?_ ⟨rfl, rfl, rfl⟩⟩
      rwa [List.append_nil]
  | some path =>
    have hstages : a.stages = (.geo, path) :: a.lastStages := by rw [Arguments.stages, hgeo]
    have hread := asks_readGeo files path
    cases hfound : Part.geo.read files path with
    | error failure =>
      rw [hfound] at hread
      refine ⟨_, _, hread.bind (asks_pure _), .failed ?_ ⟨rfl, rfl, rfl⟩⟩
      rw [hstages]
      exact .here (Part.fails_of_read hfound)
    | ok table =>
      rw [hfound] at hread
      have htable := Part.read_ok.mp hfound
      obtain ⟨tree, request, htree, hrequest, hasks⟩ | ⟨failure, paths, hstops, hasks⟩ :=
        asks_decision (engineOf settings (some table)) rfl files format a
      · have hgives : Gives files a (some table) tree request :=
          ⟨hgeo ▸ .some htable, htree, hrequest⟩
        exact ⟨_, _, hread.bind (hasks.bind (asks_pure _)),
          .decided hgives (by rw [hstages]; rfl) ⟨rfl, rfl⟩⟩
      · refine ⟨_, _, hread.bind (hasks.bind (asks_pure _)), .failed ?_ (.after ⟨rfl, rfl, rfl⟩ _)⟩
        rw [hstages, List.append_nil]
        exact .later htable hstops

/-- The settings of the files, or the initial ones if they cannot be loaded. -/
def loaded (files : Files) (environment : Assoc String) (directory : String) : Settings :=
  (Settings.load (m := Id) files.reader environment directory).run.toOption.getD .initial

theorem asks_withSettings (files : Files) (environment : Assoc String) (a : Arguments) :
    ∃ report sought paths,
      Asks (withSettings files.noting environment a) report (sought ++ paths) ∧
        sought.Sublist (Settings.sought environment a.configDir) ∧
        Ends files (loaded files environment a.configDir) a report paths := by
  obtain ⟨sought, hload, hsublist⟩ := Settings.asks_load files environment a.configDir
  rw [withSettings, loaded]
  cases hsettings : (Settings.load (m := Id) files.reader environment a.configDir).run with
  | ok settings =>
    rw [hsettings] at hload
    obtain ⟨report, paths, hasks, hends⟩ :=
      asks_withGeo files (formatOf settings environment) settings a
    exact ⟨report, sought, paths, hload.bind hasks, hsublist, hends⟩
  | error fault =>
    rw [hsettings] at hload
    obtain ⟨report, paths, hasks, hends⟩ :=
      asks_withGeo files (formatOf .initial environment) .initial a
    exact ⟨_, sought, paths, hload.bind (hasks.map _), hsublist, hends.after _⟩

-- ---------------------------------------------------------------------------
-- Decisions
-- ---------------------------------------------------------------------------

def decisionJson (o : Outcome) : Json :=
  .object
    [("matched", .bool o.matched), ("emit_bid", .bool o.state.emitBid),
      ("bucket", (o.state.cache.bucket?.map fun b : Nat => Json.integer b).getD .null),
      ("geo", (o.state.cache.geo?.map Json.text).getD .null)]

theorem bucket_le {e : Engine} {t : Tree} {r : Request} {b : Nat}
    (h : (e.evaluate (some t) r .fresh).state.cache.bucket? = some b) : b ≤ 100 := by
  rw [(Engine.evaluate_leaves_visited t).cache, Cache.bucket?, Option.join_eq_some_iff] at h
  have hfound : (e.findings r).bucket = some b := by
    simp only [State.fresh, Cache.empty_or, Findings.slots] at h
    exact Option.some.inj (Option.ite_none_right_eq_some.mp h).2
  obtain ⟨bid, -, hbid⟩ := Option.bind_eq_some_iff.mp hfound
  exact Bucket.ofBid_le hbid

/-- The decision of an evaluation reads as the record of what was decided. -/
theorem ofText_decisionText (e : Engine) (t : Tree) (r : Request) :
    Json.ofText (decisionText (e.evaluate (some t) r .fresh) ++ "\n") Json.maxDepth =
      .ok (decisionJson (e.evaluate (some t) r .fresh)) := by
  have hbucket (b : Nat) :
      (e.evaluate (some t) r .fresh).state.cache.bucket? = some b → b ≤ 100 := bucket_le
  generalize e.evaluate (some t) r .fresh = o at hbucket
  have htext : decisionText o = Json.laidOut
      [("matched", .bool o.matched), ("emit_bid", .bool o.state.emitBid),
        ("bucket", (o.state.cache.bucket?.map fun b : Nat => Json.integer b).getD .null),
        ("geo", (o.state.cache.geo?.map Json.text).getD .null)] := by
    rw [decisionText]
    cases o.state.cache.bucket? <;> cases o.state.cache.geo? <;> rfl
  rw [htext, decisionJson]
  refine Json.ofText_laidOut (by simp [Assoc.keys]) ?_
  simp only [List.forall_mem_cons, List.not_mem_nil, false_imp_iff, implies_true, and_true]
  refine ⟨.bool _, .bool _, ?_, ?_⟩
  · cases hb : o.state.cache.bucket? with
    | none => exact .null
    | some b => exact .natural b (Nat.le_trans (hbucket b hb) (by decide))
  · cases o.state.cache.geo? with
    | none => exact .null
    | some g => exact .text g

-- ---------------------------------------------------------------------------
-- Runs
-- ---------------------------------------------------------------------------

theorem Part.Says.unique {part : Part} {path : String} {value other : part.Value}
    (h : part.Says files path value) (hother : part.Says files path other) : value = other :=
  Except.ok.inj ((Part.read_ok.mpr h).symm.trans (Part.read_ok.mpr hother))

theorem Gives.unique {geo geo' : Option Geo.Table} {tree tree' : Tree} {request request' : Request}
    (h : Gives files a geo tree request) (h' : Gives files a geo' tree' request') :
    geo = geo' ∧ tree = tree' ∧ request = request' := by
  refine ⟨?_, h.criteria.unique h'.criteria, h.request.unique h'.request⟩
  obtain ⟨hgeo, -, -⟩ := h
  obtain ⟨hgeo', -, -⟩ := h'
  cases hpath : a.geo with
  | none =>
    rw [hpath] at hgeo hgeo'
    cases hgeo
    cases hgeo'
    rfl
  | some path =>
    rw [hpath] at hgeo hgeo'
    cases hgeo with
    | some htable =>
      cases hgeo' with
      | some htable' => rw [htable.unique htable']

theorem StopsAt.exists_fails {stages : List (Part × String)} {failure : Failure}
    (h : StopsAt files stages failure paths) :
    ∃ stage ∈ stages, ∀ value, ¬ stage.1.Says files stage.2 value := by
  induction h with
  | here hfails => exact ⟨_, List.mem_cons_self, hfails.no_value⟩
  | later _ _ ih =>
    obtain ⟨stage, hmem, hnone⟩ := ih
    exact ⟨stage, List.mem_cons_of_mem _ hmem, hnone⟩

theorem Gives.exists_value {geo : Option Geo.Table} {tree : Tree} {request : Request}
    (h : Gives files a geo tree request) :
    ∀ stage ∈ a.stages, ∃ value, stage.1.Says files stage.2 value := by
  obtain ⟨hgeo, hcriteria, hrequest⟩ := h
  have hlast : ∀ stage ∈ a.lastStages, ∃ value, stage.1.Says files stage.2 value :=
    List.forall_mem_cons.mpr ⟨⟨tree, hcriteria⟩, List.forall_mem_singleton.mpr ⟨request, hrequest⟩⟩
  rw [Arguments.stages]
  cases hpath : a.geo with
  | none => exact hlast
  | some path =>
    rw [hpath] at hgeo
    cases hgeo with
    | @some _ table htable => exact List.forall_mem_cons.mpr ⟨⟨table, htable⟩, hlast⟩

/-- A command line that gives the criteria, the request and at most one table of addresses and one
configuration directory is understood, whatever the order and the spelling. If every file is
then what it should be, the run prints the decision of the engine, and nothing else; otherwise
it prints nothing, reports the first failure, and reads no file that comes after it. Before that
only files of the settings are read. -/
theorem run_settles (files : Files) (environment : Assoc String) :
    (∀ line a, Arguments.Spells line environment a →
      Arguments.parse (line.flatMap Given.written) environment = .ok a) ∧
    ∀ arguments a, Arguments.parse arguments environment = .ok a →
      ∃ report sought paths,
        (run files.noting environment arguments).run [] = pure (report, sought ++ paths) ∧
        sought.Sublist (Settings.sought environment a.configDir) ∧
        (report.code = 0 ↔ ∃ geo tree request, Gives files a geo tree request) ∧
        (∀ geo tree request, Gives files a geo tree request →
          paths = a.stages.map (·.2) ∧
          Json.ofText report.output Json.maxDepth = .ok (decisionJson
            (Engine.evaluate
              ⟨.empty, geo.map Assoc.get?, none, loaded files environment a.configDir⟩
              (some tree) request .fresh))) ∧
        ((¬ ∃ geo tree request, Gives files a geo tree request) →
          ∃ failure, StopsAt files a.stages failure paths ∧ report.Fails failure) := by
  refine ⟨fun line a => Arguments.parse_written, fun arguments a hparse => ?_⟩
  obtain ⟨report, sought, paths, hasks, hsublist, hends⟩ := asks_withSettings files environment a
  refine ⟨report, sought, paths, ?_, hsublist, ?_⟩
  · rw [run, hparse]
    exact hasks []
  cases hends with
  | @decided geo tree request hgives hpaths hprints =>
    refine ⟨iff_of_true hprints.code ⟨geo, tree, request, hgives⟩, ?_,
      fun hnone => absurd ⟨geo, tree, request, hgives⟩ hnone⟩
    intro geo' tree' request' hgives'
    obtain ⟨rfl, rfl, rfl⟩ := hgives.unique hgives'
    refine ⟨hpaths, ?_⟩
    rw [hprints.output]
    exact ofText_decisionText _ tree request
  | @failed failure hstops hfails =>
    have hnone : ¬ ∃ geo tree request, Gives files a geo tree request := by
      rintro ⟨geo, tree, request, hgives⟩
      obtain ⟨stage, hmem, hnot⟩ := hstops.exists_fails
      obtain ⟨value, hvalue⟩ := hgives.exists_value stage hmem
      exact hnot value hvalue
    refine ⟨iff_of_false ?_ hnone, fun geo tree request hgives => ?_,
      fun _ => ⟨failure, hstops, hfails⟩⟩
    · rw [hfails.code]
      decide
    · exact absurd ⟨geo, tree, request, hgives⟩ hnone

def market : Files := fun path =>
  if path = "places.json" then
    .ok (Text.utf8 "\x7b\"192.0.2.1\": \x7b\"country\": \"US\", \"city\": \"SF\"\x7d\x7d")
  else if path = "rules.json" then .ok (Text.utf8 "\x7b\"geoip\": [\"US.\"]\x7d")
  else if path = "visit.json" then .ok (Text.utf8 "\x7b\"socket_addr\": \"192.0.2.1\"\x7d")
  else .error .missing

def marketTable : Geo.Table := [("192.0.2.1", ⟨"US", "", "SF"⟩)]

def marketTree : Tree := .node [⟨"geoip", .array [.text "US."], some (.geoip ["US."])⟩] [] [] none

def marketVisit : Request := { Request.empty with socketAddr := some "192.0.2.1" }

def marketLine : List Given :=
  [⟨.request, "visit.json", false⟩, ⟨.geo, "places.json", true⟩, ⟨.criteria, "rules.json", false⟩]

def marketArguments : Arguments := ⟨"rules.json", "visit.json", "config", some "places.json"⟩

theorem market_gives : Gives market marketArguments (some marketTable) marketTree marketVisit := by
  refine ⟨.some ⟨_, rfl, ?_⟩, ⟨_, rfl, ?_⟩, ⟨_, rfl, ?_⟩⟩
  · cbv
  · cbv
  · cbv

def nowhere : Files := fun _ => .error .missing

theorem nowhere_no_value (part : Part) (path : String) (value : part.Value) :
    ¬ part.Says nowhere path value := nofun

/-- With all files there, and with none. -/
theorem run_settles_market :
    Arguments.Spells marketLine [] marketArguments ∧
      Gives market marketArguments (some marketTable) marketTree marketVisit ∧
      (∃ report sought,
        (run market.noting [] (marketLine.flatMap Given.written)).run [] =
          pure (report, sought ++ ["places.json", "rules.json", "visit.json"]) ∧
        report.code = 0 ∧
        Json.ofText report.output Json.maxDepth = .ok (.object
          [("matched", .bool true), ("emit_bid", .bool false), ("bucket", .null),
            ("geo", .text "US..SF")])) ∧
      ∃ report sought failure,
        (run nowhere.noting [] (marketLine.flatMap Given.written)).run [] =
          pure (report, sought ++ ["places.json"]) ∧
        Part.geo.Fails nowhere "places.json" failure ∧ report.Fails failure := by
  have hspells : Arguments.Spells marketLine [] marketArguments := by
    refine ⟨?_, by decide, rfl, rfl, rfl, rfl, by decide⟩
    have hlegible (g : Given) (hg : g ∈ marketLine) :
        g.switch ≠ .help ∧ g.value ≠ "" ∧ g.value.toList.head? ≠ some '-' := by
      revert g
      decide
    exact fun g hg => ⟨(hlegible g hg).1, (hlegible g hg).2.1,
      fun _ hdash => absurd hdash (hlegible g hg).2.2⟩
  refine ⟨hspells, market_gives, ?_, ?_⟩
  · obtain ⟨hparse, hrun⟩ := run_settles market []
    obtain ⟨report, sought, paths, hreport, -, hcode, hdecision, -⟩ :=
      hrun _ _ (hparse marketLine marketArguments hspells)
    obtain ⟨rfl, houtput⟩ := hdecision _ _ _ market_gives
    refine ⟨report, sought, hreport, hcode.mpr ⟨_, _, _, market_gives⟩, ?_⟩
    rw [houtput]
    rfl
  · obtain ⟨hparse, hrun⟩ := run_settles nowhere []
    obtain ⟨report, sought, paths, hreport, -, -, -, hfailure⟩ :=
      hrun _ _ (hparse marketLine marketArguments hspells)
    have hnone : ¬ ∃ geo tree request, Gives nowhere marketArguments geo tree request :=
      fun ⟨_, _, _, hgives⟩ => nowhere_no_value _ _ _ hgives.criteria
    obtain ⟨failure, hstops, hfails⟩ := hfailure hnone
    cases hstops with
    | here hgeo => exact ⟨report, sought, failure, hreport, hgeo, hfails⟩
    | later hfound _ => exact absurd hfound (nowhere_no_value _ _ _)

def blank : Files := fun path =>
  if path = "c.json" ∨ path = "r.json" then .ok (Text.utf8 "\x7b\x7d") else .error .missing

def blankCode (environment : Assoc String) (more : List String) : Nat :=
  (run (m := Id) blank.reader environment
    (["--criteria", "c.json", "--request", "r.json"] ++ more)).run.code

/-- Not every line is understood that gives the files: an empty directory is no value, also where
the variable stands in for it, a switch is not given twice, and a value of its own is not taken
for one that begins like a switch. -/
theorem run_refuses_blank :
    Part.criteria.Says blank "c.json" .empty ∧ Part.request.Says blank "r.json" .empty ∧
      blankCode [("CONFIG_DIR", "")] [] = 2 ∧ blankCode [] ["--config-dir", ""] = 2 ∧
      blankCode [] ["--request=r.json"] = 2 ∧ blankCode [] ["--config-dir", "-x"] = 2 := by
  refine ⟨⟨_, rfl, ?_⟩, ⟨_, rfl, ?_⟩, rfl, rfl, rfl, rfl⟩
  · cbv
  · cbv

end Targeting.Command
