import SelectorRouter.CommandLine.Run
import SelectorRouter.Proofs.Files.Loading
import SelectorRouter.Proofs.Files.Writing
import SelectorRouter.Proofs.Router.Texts
import SelectorRouter.Proofs.Session
import SelectorRouter.Proofs.Template.Contract

/-!
# All or nothing

A run of the program generates its text before it opens the output. Whatever goes wrong goes
wrong before anything is written, so a run that fails leaves the files as they were and the
standard output empty. A run that finishes delivers the text of the generator, called with what
the arguments, the settings file and the template ask for, to one place: to the output file,
with every other file as it was, or to the standard output.
-/

namespace SelectorRouter.CommandLine

open Fallible (bind_eq_ok map_eq_ok)

/-! ## What the arguments ask for -/

/-- The settings that a run starts from: those of the settings file, or the standard ones. -/
inductive Configures (files : Files.Tree) (args : Arguments) : Settings → Prop
  | standard : givenPath? args.config = none → Configures files args Settings.default
  | file {path : String} {text : List Char} {data : Json} {settings : Settings} :
      givenPath? args.config = some path → files.readText path path = .ok text →
      Json.read text = .ok data → Settings.ofJson data = .ok settings →
      Configures files args settings

/-- The template of a run: the text of the template file, or none. -/
inductive Supplies (files : Files.Tree) (args : Arguments) : Option String → Prop
  | builtin : givenPath? args.template = none → Supplies files args none
  | file {path : String} {text : List Char} : givenPath? args.template = some path →
      files.readText (Files.Path.ofString path).text (Files.Path.ofString path).text = .ok text →
      Supplies files args (some (String.ofList text))

/-- The request of a run. What the arguments give wins over the settings. -/
def Arguments.request (args : Arguments) (settings : Settings) (modules : List Module)
    (template : Option String) : Router.Request where
  modules := modules
  routerName :=
    match args.name with
    | some name => name.toJson
    | none => settings.routerName
  template := template
  receivesEther := settings.receivesEther || args.receive
  diamond := settings.diamond || args.diamond
  filter :=
    if settings.excludeCoverage || args.coverage then FunctionFilter.withoutCoverage
    else FunctionFilter.all

/-- The session that a run starts with: nothing is shown and nothing logged yet. -/
def Arguments.session (args : Arguments) (s : Session) : Session :=
  { s with debug := s.debug || args.debug, shown := [], log := [] }

/-- The text of the generator, called with what the arguments ask for. -/
def Generates (args : Arguments) (m : Machine) (text : String) : Prop :=
  ∃ settings modules template policy,
    Configures m.files args settings ∧ Supplies m.files args template ∧
      WarningPolicy.ofControl (warningControl args) = .ok policy ∧
      Files.loadModules m.files args.inputs = .ok modules ∧
      (Router.generate (args.request settings modules template)
        ((args.session m.session).insideWarnings policy)).1 = .ok text

/-- The output of a run can be opened. The standard output always can. -/
def Openable (files : Files.Tree) (args : Arguments) : Prop :=
  ∀ path, givenPath? args.output = some path → files.Writable path

/-- A text is all that a run wrote: to the file that the arguments name, and then nothing to the
standard output, or else to the standard output, and then to no file. -/
def Delivered (args : Arguments) (before after : Files.Tree) (stdout text : String) : Prop :=
  match givenPath? args.output with
  | some path => stdout = "" ∧ Files.Replaces before after path (Text.utf8 text)
  | none => stdout = text ∧ after = before

/-- A run that did all of its work, or nothing. -/
structure AllOrNothing (args : Arguments) (before after : Machine) (outcome : Outcome) :
    Prop where
  finishes : outcome.ending = .finished ↔
    (∃ text, Generates args before text) ∧ Openable before.files args
  delivers : outcome.ending = .finished → ∃ text, Generates args before text ∧
    Delivered args before.files after.files outcome.stdout text
  fails : outcome.ending ≠ .finished → (∃ fault, outcome.ending = .failed fault) ∧
    outcome.stdout = "" ∧ after.files = before.files

variable {args : Arguments} {files : Files.Tree} {m : Machine}

/-! ## Settings and template -/

/-- What is done with the file that an option names, or else a standard value. -/
theorem given_eq_ok {α β : Type} (value : Option OptionValue) (standard : β)
    (read : String → Except Fault α) (f : α → β) {b : β} :
    (match givenPath? value with
      | none => Except.ok standard
      | some path => (read path).map f) = .ok b ↔
    (givenPath? value = none ∧ standard = b) ∨
      ∃ path a, givenPath? value = some path ∧ read path = .ok a ∧ f a = b := by
  cases givenPath? value with
  | none => simp
  | some path => simp [map_eq_ok]

theorem request_override (settings : Settings) (modules : List Module)
    (template : Option String) :
    (override args settings).request modules template = args.request settings modules template := by
  unfold override Settings.request Arguments.request
  cases args.name <;> rfl

theorem readSettings_eq_ok {path : String} {settings : Settings} :
    readSettings files path = .ok settings ↔ ∃ text data, files.readText path path = .ok text ∧
      Json.read text = .ok data ∧ Settings.ofJson data = .ok settings := by
  rw [readSettings, bind_eq_ok]
  constructor
  · rintro ⟨text, found, read⟩
    split at read
    · next data parsed => exact ⟨text, data, found, parsed, read⟩
    · cases read
  · rintro ⟨text, data, found, parsed, read⟩
    refine ⟨text, found, ?_⟩
    rw [parsed]
    exact read

theorem settingsOf_eq_ok {effective : Settings} : settingsOf files args = .ok effective ↔
    ∃ settings, Configures files args settings ∧ override args settings = effective := by
  refine (given_eq_ok args.config (override args Settings.default) (readSettings files)
    (override args)).trans ?_
  constructor
  · rintro (⟨unnamed, rfl⟩ | ⟨path, settings, named, read, rfl⟩)
    · exact ⟨_, .standard unnamed, rfl⟩
    · obtain ⟨text, data, found, parsed, described⟩ := readSettings_eq_ok.mp read
      exact ⟨settings, .file named found parsed described, rfl⟩
  · rintro ⟨settings, configures, rfl⟩
    cases configures with
    | standard unnamed => exact Or.inl ⟨unnamed, rfl⟩
    | file named found parsed described =>
        have read := readSettings_eq_ok.mpr ⟨_, _, found, parsed, described⟩
        exact Or.inr ⟨_, settings, named, read, rfl⟩

theorem templateOf_eq_ok {template : Option String} :
    templateOf files args = .ok template ↔ Supplies files args template := by
  refine (given_eq_ok args.template none (fun path => files.readText
    (Files.Path.ofString path).text (Files.Path.ofString path).text)
    (fun text => some (String.ofList text))).trans ?_
  constructor
  · rintro (⟨unnamed, rfl⟩ | ⟨path, text, named, found, rfl⟩)
    · exact .builtin unnamed
    · exact .file named found
  · intro supplies
    cases supplies with
    | builtin unnamed => exact Or.inl ⟨unnamed, rfl⟩
    | file named found => exact Or.inr ⟨_, _, named, found, rfl⟩

/-! ## Generating the text -/

/-- The text of a run comes from the generator, under the policy that the arguments ask for. -/
theorem source_eq_ok {settings : Settings} {s : Session} {text : String} :
    (source files args (override args settings) s).1 = .ok text ↔
      ∃ modules template policy, Supplies files args template ∧
        WarningPolicy.ofControl (warningControl args) = .ok policy ∧
        Files.loadModules files args.inputs = .ok modules ∧
        (Router.generate (args.request settings modules template)
          (s.insideWarnings policy)).1 = .ok text := by
  rw [source, Action.ofResult_bind_eq_ok]
  simp only [templateOf_eq_ok]
  cases control : WarningPolicy.ofControl (warningControl args) with
  | error fault =>
      simp [Action.withWarnings_of_error control]
  | ok policy =>
      simp only [Action.withWarnings_of_ok control, generateFiles, Action.ofResult_bind_eq_ok,
        request_override]
      constructor
      · rintro ⟨template, supplies, modules, loaded, generated⟩
        exact ⟨modules, template, policy, supplies, rfl, loaded, generated⟩
      · rintro ⟨modules, template, _, supplies, ⟨⟩, loaded, generated⟩
        exact ⟨template, supplies, modules, loaded, generated⟩

/-- What a run generates, before it writes anything. -/
def product (args : Arguments) (m : Machine) : Except Fault String := do
  let settings ← settingsOf m.files args
  (source m.files args settings (args.session m.session)).1

theorem product_eq_ok_iff {text : String} : product args m = .ok text ↔ Generates args m text := by
  rw [product, bind_eq_ok]
  simp only [settingsOf_eq_ok]
  constructor
  · rintro ⟨_, ⟨settings, configures, rfl⟩, generated⟩
    obtain ⟨modules, template, policy, supplies, control, loaded, generated⟩ :=
      source_eq_ok.mp generated
    exact ⟨settings, modules, template, policy, configures, supplies, control, loaded, generated⟩
  · rintro ⟨settings, modules, template, policy, configures, supplies, control, loaded, generated⟩
    exact ⟨_, ⟨settings, configures, rfl⟩, source_eq_ok.mpr
      ⟨modules, template, policy, supplies, control, loaded, generated⟩⟩

/-! ## Writing the text -/

/-- A text is delivered as it is, or else it is written to the output file. -/
theorem deliver_eq_ok {text : String} {written : Files.Tree × String} :
    deliver args files text = .ok written ↔
      (givenPath? args.output = none ∧ (files, text) = written) ∨
        ∃ path after, givenPath? args.output = some path ∧
          files.writeText path text = .ok after ∧ (after, "") = written :=
  given_eq_ok args.output (files, text) (fun path => files.writeText path text)
    (fun after => (after, ""))

theorem exists_deliver_iff {text : String} :
    (∃ written, deliver args files text = .ok written) ↔ Openable files args := by
  simp only [deliver_eq_ok, Files.Tree.writeText_eq_ok_iff]
  constructor
  · rintro ⟨_, ⟨unnamed, -⟩ | ⟨path, after, named, ⟨null, place, opened, -⟩, -⟩⟩ other given
    · rw [unnamed] at given
      cases given
    · rw [named] at given
      cases given
      exact ⟨null, place, opened⟩
  · intro openable
    cases given : givenPath? args.output with
    | none => exact ⟨_, Or.inl ⟨rfl, rfl⟩⟩
    | some path =>
        obtain ⟨null, place, opened⟩ := openable path given
        exact ⟨_, Or.inr ⟨path, _, rfl, ⟨null, place, opened, rfl⟩, rfl⟩⟩

theorem delivered_of_deliver {text : String} {written : Files.Tree × String}
    (h : deliver args files text = .ok written) :
    Delivered args files written.1 written.2 text := by
  unfold Delivered
  rcases deliver_eq_ok.mp h with ⟨unnamed, rfl⟩ | ⟨path, after, named, wrote, rfl⟩
  · rw [unnamed]
    exact ⟨rfl, rfl⟩
  · rw [named]
    exact ⟨rfl, Files.Tree.replaces_of_writeText wrote⟩

/-! ## Runs -/

/-- What a run leaves: the files and the standard output. -/
def effect (args : Arguments) (m : Machine) : Except Fault (Files.Tree × String) :=
  product args m >>= deliver args m.files

theorem exists_effect_iff : (∃ written, effect args m = .ok written) ↔
    (∃ text, Generates args m text) ∧ Openable m.files args := by
  simp only [effect, bind_eq_ok, product_eq_ok_iff]
  constructor
  · rintro ⟨written, text, generates, delivered⟩
    exact ⟨⟨text, generates⟩, exists_deliver_iff.mp ⟨written, delivered⟩⟩
  · rintro ⟨⟨text, generates⟩, openable⟩
    obtain ⟨written, delivered⟩ := (@exists_deliver_iff args m.files text).mpr openable
    exact ⟨written, text, generates, delivered⟩

theorem delivered_of_effect {written : Files.Tree × String} (h : effect args m = .ok written) :
    ∃ text, Generates args m text ∧ Delivered args m.files written.1 written.2 text := by
  obtain ⟨text, generated, delivered⟩ := bind_eq_ok.mp h
  exact ⟨text, product_eq_ok_iff.mp generated, delivered_of_deliver delivered⟩

/-- A run ends as its effect does. A run without an effect leaves everything as it was. -/
theorem execute_cases (environment : Option Int) (args : Arguments) (m : Machine) :
    (∃ fault stderr after, execute environment args m = (⟨.failed fault, "", stderr⟩, after) ∧
      effect args m = .error fault ∧ after.files = m.files) ∨
    ∃ stdout stderr after, execute environment args m = (⟨.finished, stdout, stderr⟩, after) ∧
      effect args m = .ok (after.files, stdout) := by
  have start : (if args.debug then { m.session.clearOutput with debug := true }
      else m.session.clearOutput) = args.session m.session := by
    cases debug : args.debug <;> simp [Session.clearOutput, Arguments.session, debug]
  simp only [execute, effect, product, start]
  cases settingsOf m.files args with
  | error fault => exact Or.inl ⟨fault, _, _, rfl, rfl, rfl⟩
  | ok settings =>
      simp only [bind, Except.bind]
      rcases source m.files args settings (args.session m.session) with ⟨fault | text, after⟩
      · exact Or.inl ⟨fault, _, _, rfl, rfl, rfl⟩
      · simp only
        cases deliver args m.files text with
        | error fault => exact Or.inl ⟨fault, _, _, rfl, rfl, rfl⟩
        | ok written => exact Or.inr ⟨_, _, _, rfl, rfl⟩

/-- **A run delivers the whole text to one place, or it leaves everything as it was.** It
finishes exactly when there is a text and the output can be opened. Every other run whose
arguments are accepted ends in a fault, with nothing on the standard output and no file
changed. -/
theorem run_allOrNothing (environment : Option Int) (argv : List String) (args : Arguments)
    (m : Machine) (accepted : parse argv = .ok args) :
    AllOrNothing args m (run environment argv m).2 (run environment argv m).1 := by
  have runs : run environment argv m = execute environment args m := by rw [run, accepted]
  rw [runs]
  rcases execute_cases environment args m with
    ⟨fault, stderr, after, ended, none, same⟩ | ⟨stdout, stderr, after, ended, some⟩
  · rw [ended]
    refine ⟨⟨fun finished => ?_, fun succeeds => ?_⟩, fun finished => ?_, fun _ => ?_⟩
    · cases finished
    · obtain ⟨written, some⟩ := exists_effect_iff.mpr succeeds
      rw [none] at some
      cases some
    · cases finished
    · exact ⟨⟨fault, rfl⟩, rfl, same⟩
  · rw [ended]
    refine ⟨⟨fun _ => ?_, fun _ => rfl⟩, fun _ => ?_, fun unfinished => ?_⟩
    · exact exists_effect_iff.mp ⟨_, some⟩
    · exact delivered_of_effect some
    · exact absurd rfl unfinished

/-! ## Two runs -/

/-- Generation with the built-in template succeeds where no warning is raised. -/
theorem generate_of_renders {r : Router.Request} {t : Template.Sections} {s : Session}
    (renders : Router.Renders r t) (builtIn : Router.templateOf r.template = Template.router)
    (unraised : s.policy ≠ .raise) : (Router.generate r s).1 = .ok t.contract := by
  rcases renders.run s with rendered | ⟨raising, -⟩
  · rw [rendered, builtIn, Template.render_router]
  · exact absurd raising unraised

/-- The deployment file of a token. -/
def tokenFile : String :=
  Text.joinLines ["\x7b\"contractName\": \"Token\",",
    "\"abi\": [\x7b\"type\": \"function\", \"name\": \"name\"\x7d],",
    "\"deployedAddress\": \"0x70997970C51812dc3A010C7d01b50e0d17dc79C8\"\x7d"]

def tokenJson : Json :=
  .obj [("contractName", .str "Token"),
    ("abi", .arr [.obj [("type", .str "function"), ("name", .str "name")]]),
    ("deployedAddress", .str Module.sampleAddress)]

/-- A directory with a deployment file and one that is none, in a fresh session. -/
def tokenMachine : Machine :=
  ⟨[(["Token.json"], .bytes (Text.utf8 tokenFile)), (["Notes.json"], .bytes (Text.utf8 "[]"))],
    Session.initial, none⟩

set_option maxRecDepth 4000 in
theorem read_tokenFile : Json.read (Text.normalizeNewlines tokenFile.toList) = .ok tokenJson := by
  rw [tokenFile, Text.joinLines_eq_ofList, String.toList_ofList]
  simp only [List.map_cons, List.map_nil]
  repeat rw [String.toList_ofList]
  rfl

theorem loadModule_token : Files.loadModule tokenMachine.files .none "Token.json" =
    .ok (Module.tokenAt Module.sampleAddress) := by
  have bytes : tokenMachine.files.readBytes (Files.Path.ofString "Token.json").text =
      .ok (Text.utf8 tokenFile) := by
    with_unfolding_all rfl
  have holds := Files.holdsText_of_utf8 ⟨by decide, bytes⟩
  rw [Files.loadModule_of_read holds read_tokenFile]
  rfl

theorem loadModule_notes : Files.loadModule tokenMachine.files .none "Notes.json" =
    .error (.load (.unusable (some "Notes.json") (.notAnObject "list"))) := by
  have bytes : tokenMachine.files.readBytes (Files.Path.ofString "Notes.json").text =
      .ok (Text.utf8 "[]") := by
    with_unfolding_all rfl
  have holds := Files.holdsText_of_utf8 ⟨by decide, bytes⟩
  rw [Files.loadModule_of_read holds rfl]
  rfl

/-- The arguments of a run that writes the router of a token to a file. -/
def tokenArguments : Arguments :=
  { Arguments.empty with
    inputs := ["Token.json"]
    output := some (.text "Router.sol") }

/-- The same for a run that treats warnings as faults and is given a second file. -/
def strictArguments : Arguments :=
  { tokenArguments with
    inputs := ["Token.json", "Notes.json"]
    warnings := some (.text "error") }

/-- The run for the token generates its contract. -/
theorem generates_token : ∃ t,
    Router.Renders (tokenArguments.request .default [Module.tokenAt Module.sampleAddress] none) t ∧
      Generates tokenArguments tokenMachine t.contract := by
  obtain ⟨_, _, t, drafted⟩ := Router.exists_drafted
    (r := tokenArguments.request .default [Module.tokenAt Module.sampleAddress] none)
    (Module.accepted_tokenNamed "Token") (List.cons_ne_nil _ _)
    (List.forall_mem_singleton.mpr ⟨"Token", rfl⟩)
  refine ⟨t, drafted.renders, .default, _, none, .showOnce, .standard rfl, .builtin rfl, rfl,
    Fallible.mapM_eq_ok_iff_map.mpr ?_, generate_of_renders drafted.renders rfl ?_⟩
  · exact List.singleton_inj.mpr loadModule_token
  · decide

/-- The first run writes the contract to its file and nothing else anywhere. The second one
cannot load its second file, and does nothing. -/
theorem run_allOrNothing_token :
    let writing := run none ["-o", "Router.sol", "Token.json"] tokenMachine
    let failing :=
      run none ["-W", "error", "-o", "Router.sol", "Token.json", "Notes.json"] tokenMachine
    (∃ t, Router.Renders
        (tokenArguments.request .default [Module.tokenAt Module.sampleAddress] none) t ∧
      writing.1.ending = .finished ∧ writing.1.stdout = "" ∧
      Files.Replaces tokenMachine.files writing.2.files "Router.sol" (Text.utf8 t.contract)) ∧
    (∃ fault, failing.1.ending = .failed fault) ∧ failing.1.stdout = "" ∧
      failing.2.files = tokenMachine.files := by
  intro writing failing
  constructor
  · obtain ⟨t, renders, generates⟩ := generates_token
    have accepted : parse ["-o", "Router.sol", "Token.json"] = .ok tokenArguments := by
      with_unfolding_all rfl
    have openable : Openable tokenMachine.files tokenArguments := by
      rintro _ ⟨⟩
      exact ⟨by decide, ["Router.sol"], by with_unfolding_all rfl⟩
    obtain ⟨finishes, delivers, -⟩ :=
      run_allOrNothing none _ tokenArguments tokenMachine accepted
    have finished := finishes.mpr ⟨⟨_, generates⟩, openable⟩
    obtain ⟨text, generates', stdout, replaced⟩ := delivers finished
    -- there is one text that a run generates
    obtain rfl := Except.ok.inj
      ((product_eq_ok_iff.mpr generates').symm.trans (product_eq_ok_iff.mpr generates))
    exact ⟨t, renders, finished, stdout, replaced⟩
  · have accepted : parse ["-W", "error", "-o", "Router.sol", "Token.json", "Notes.json"] =
        .ok strictArguments := by
      with_unfolding_all rfl
    obtain ⟨finishes, -, fails⟩ := run_allOrNothing none _ strictArguments tokenMachine accepted
    refine fails fun finished => ?_
    obtain ⟨⟨_, _, modules, _, _, -, -, -, loaded, -⟩, -⟩ := finishes.mp finished
    obtain ⟨notes, read⟩ := Fallible.exists_ok_of_mapM loaded "Notes.json"
      (List.mem_cons_of_mem _ List.mem_cons_self)
    rw [loadModule_notes] at read
    cases read

end SelectorRouter.CommandLine
