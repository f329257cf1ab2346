import CodeHighlight.Proofs.CommandLine.Printing
import CodeHighlight.Proofs.Highlighter.Precedence
import CodeHighlight.Proofs.Language.Detection
import CodeHighlight.Proofs.Registry.Stages

/-! # Detected languages are known

A call that leaves the language to be detected asks for one of the library. Each of those is
registered before the code is highlighted, and manifests can take its place but not remove it. So a
detected language is never unknown to the highlighter. -/
namespace CodeHighlight

namespace Highlighter

variable {highlighter : Highlighter}

/-- The highlighter never refuses, and it has all languages of the library. -/
structure Equipped (highlighter : Highlighter) : Prop where
  ready : highlighter.Ready
  builtins : ∀ definition ∈ Definition.builtins,
    ∃ loader, highlighter.registry.loaders.get? definition.id = some loader

/-- A manifest for a language of the library takes its place, and all other languages stay. -/
theorem Equipped.registerLanguage (h : highlighter.Equipped) (id : String)
    (definition : Definition) : (highlighter.registerLanguage id (.value definition)).Equipped where
  ready := h.ready.registerLanguage id definition
  builtins := by
    intro builtin hbuiltin
    rw [BuilderCall.get?_loaders_registerLanguage]
    split
    · exact ⟨_, rfl⟩
    · exact h.builtins builtin hbuiltin

theorem equipped_ofConfig (files : FileSystem) (environment : Environment) (config : Config) :
    (ofConfig files environment config).Equipped where
  ready := ready_ofConfig files environment config
  builtins := by
    intro definition hdefinition
    refine ⟨.value definition, ?_⟩
    rw [ofConfig, registerBuiltinLanguages]
    exact (BuilderCall.get?_loaders_builtins (by decide) _ rfl).mpr
      ⟨definition, hdefinition, rfl, rfl⟩

/-- A language of the library is among those that are listed. -/
theorem Equipped.mem_ids (h : highlighter.Equipped) {definition : Definition}
    (hdefinition : definition ∈ Definition.builtins) :
    definition.id ∈ highlighter.registry.ids := by
  obtain ⟨loader, hloader⟩ := h.builtins definition hdefinition
  exact Catalog.mem_names_of_get? hloader

theorem Equipped.load_ne_unknown (h : highlighter.Equipped) (engine : Engine)
    {definition : Definition} (hdefinition : definition ∈ Definition.builtins) (id : String) :
    (highlighter.registry.load engine definition.id).1 ≠ .error (.unknownLanguage id) := by
  intro hload
  obtain ⟨loader, hloader⟩ := h.builtins definition hdefinition
  cases Registry.failsWith_of_load hload with
  | unregistered hnone => cases hnone.symm.trans hloader
  | loader hresolves =>
    obtain ⟨other, hother, hanswer⟩ := hresolves
    obtain ⟨value, rfl⟩ := h.ready.definitions _ _ hother
    cases hanswer
  | definition _ hdefect => cases hdefect

/-- Neither loading nor parsing finds a language of the library unknown. -/
theorem Equipped.highlightInline_ne_unknown (h : highlighter.Equipped) (engine : Engine)
    {definition : Definition} (hdefinition : definition ∈ Definition.builtins) (code : String)
    (theme : Theme) (timeout : Option Nat) (id : String) :
    (highlighter.highlightInline engine code definition.id theme timeout).1 ≠
      .error (.unknownLanguage id) := by
  intro hinline
  rcases Failure.of_bind hinline with hload | ⟨state, -, hparse⟩
  · exact h.load_ne_unknown engine hdefinition id hload
  · rcases Failure.of_bind hparse with hcaptures | ⟨captures, -, hrender⟩
    · rw [LanguageState.highlight] at hcaptures
      split at hcaptures <;> cases hcaptures
    · cases hrender

theorem Equipped.highlight_ne_unknown (h : highlighter.Equipped) (engine : Engine)
    {definition : Definition} (hdefinition : definition ∈ Definition.builtins) (code : String)
    (options : HighlightOptions) (id : String) :
    (highlighter.highlight engine code definition.id options).1 ≠ .error (.unknownLanguage id) := by
  intro hfail
  obtain ⟨theme, htheme⟩ := h.ready.hasDefault.choose options.theme
  rw [highlight_answer htheme, Failure.map_error_iff] at hfail
  have hinline := h.highlightInline_ne_unknown engine hdefinition code theme options.timeout id
  cases hcontent : (highlighter.highlightInline engine code definition.id theme
      options.timeout).1 with
  | ok content =>
    rw [hcontent] at hfail
    cases hfail
  | error failure =>
    rw [hcontent] at hfail hinline
    rw [degrade] at hfail
    split at hfail
    · exact hinline hfail
    · cases hfail

end Highlighter

namespace CommandLine

variable {surroundings : Surroundings} {report : Report}

/-! ## Manifests -/

theorem registerManifests_cons (files : FileSystem) (highlighter : Highlighter) (path : String)
    (paths : List String) :
    registerManifests files highlighter (path :: paths) =
      match Definition.ofFile files path with
      | .ok definition =>
        registerManifests files (highlighter.registerLanguage definition.id (.value definition))
          paths
      | .error failure =>
        .error ⟨"Failed to load language manifest " ++ path, failure.causes⟩ := by
  rw [registerManifests, List.foldlM_cons]
  cases Definition.ofFile files path <;> rfl

theorem equipped_registerManifests {files : FileSystem} {paths : List String}
    {highlighter registered : Highlighter} (h : highlighter.Equipped)
    (hregistered : registerManifests files highlighter paths = .ok registered) :
    registered.Equipped := by
  induction paths generalizing highlighter with
  | nil =>
    cases hregistered
    exact h
  | cons path paths ih =>
    rw [registerManifests_cons] at hregistered
    split at hregistered
    · exact ih (h.registerLanguage _ _) hregistered
    · cases hregistered

theorem registerManifests_error {files : FileSystem} {paths : List String}
    {highlighter : Highlighter} (h : registerManifests files highlighter paths = .error report) :
    ∃ path, report.attempt = "Failed to load language manifest " ++ path := by
  induction paths generalizing highlighter with
  | nil => cases h
  | cons path paths ih =>
    rw [registerManifests_cons] at h
    split at h
    · exact ih h
    · cases h
      exact ⟨path, rfl⟩

/-- The highlighter has the configuration of the request and its manifests. -/
def Prepares (surroundings : Surroundings) (request : Request) (highlighter : Highlighter) : Prop :=
  ∃ config, loadConfig surroundings request.config = .ok config ∧
    registerManifests surroundings.files
      (.ofConfig surroundings.files surroundings.environment config) request.manifests =
        .ok highlighter

theorem Prepares.equipped {request : Request} {highlighter : Highlighter}
    (h : Prepares surroundings request highlighter) : highlighter.Equipped := by
  obtain ⟨config, -, hregistered⟩ := h
  exact equipped_registerManifests
    (Highlighter.equipped_ofConfig surroundings.files surroundings.environment config) hregistered

theorem exists_prepares {request : Request} {config : Config}
    (hconfig : loadConfig surroundings request.config = .ok config)
    (hmanifests : ∀ manifest ∈ request.manifests,
      ∃ definition, Definition.ofFile surroundings.files manifest = .ok definition) :
    ∃ highlighter, Prepares surroundings request highlighter := by
  obtain ⟨highlighter, hregistered, -⟩ := exists_registerManifests hmanifests
    (Highlighter.ready_ofConfig surroundings.files surroundings.environment config)
  exact ⟨highlighter, config, hconfig, hregistered⟩

/-! ## Where a report comes from -/

theorem loadConfig_error {path : Option String} (h : loadConfig surroundings path = .error report) :
    report.causes = [] := by
  cases path with
  | none => cases h
  | some named =>
    rw [loadConfig] at h
    split at h
    · cases h
    · cases h
      rfl

theorem readInput_error {input : Input} (h : readInput surroundings input = .error report) :
    ∃ name, report.attempt = "Failed to read " ++ name := by
  cases input with
  | stdin =>
    cases hstdin : surroundings.stdin with
    | ok code =>
      rw [readInput.eq_def, hstdin] at h
      cases h
    | error failure =>
      rw [readInput.eq_def, hstdin] at h
      cases h
      exact ⟨"stdin", rfl⟩
  | file path =>
    cases hfile : surroundings.files.read path with
    | ok code =>
      rw [readInput.eq_def] at h
      dsimp only at h
      rw [hfile] at h
      cases h
    | error failure =>
      rw [readInput.eq_def] at h
      dsimp only at h
      rw [hfile] at h
      cases h
      exact ⟨path, rfl⟩

theorem perform_error {request : Request} {config : Config} {highlighter : Highlighter}
    {input : Input} {language : String} (haction : request.action = .highlight input language)
    (h : perform surroundings request config highlighter = .error report) :
    (∃ name, report.attempt = "Failed to read " ++ name) ∨
      ∃ code options failure,
        (highlighter.highlight surroundings.engine code language options).1 = .error failure ∧
        report = ⟨"Failed to highlight as " ++ language, failure.causes⟩ := by
  rw [perform, haction] at h
  dsimp only at h
  cases hread : readInput surroundings input with
  | error reason =>
    rw [hread] at h
    cases h
    exact .inl (readInput_error hread)
  | ok code =>
    rw [hread] at h
    simp only [bind, Except.bind] at h
    split at h
    · cases h
    · rename_i failure hfail
      cases h
      exact .inr ⟨code, _, failure, hfail, rfl⟩

/-- The stages of a call that can fail, from the configuration to the code. -/
theorem serve_error {arguments : Arguments} {request : Request}
    (hrequest : Request.ofArguments arguments = .ok request)
    (h : serve surroundings arguments = .error report) :
    report.causes = [] ∨
      (∃ path, report.attempt = "Failed to load language manifest " ++ path) ∨
      ∃ config highlighter, Prepares surroundings request highlighter ∧
        perform surroundings request config highlighter = .error report := by
  rw [serve, hrequest] at h
  dsimp only at h
  cases hconfig : loadConfig surroundings request.config with
  | error reason =>
    rw [hconfig] at h
    obtain rfl : reason = report := Except.error.inj h
    exact .inl (loadConfig_error hconfig)
  | ok config =>
    simp only [hconfig, bind, Except.bind] at h
    split at h
    · rename_i reason hmanifests
      obtain rfl : reason = report := Except.error.inj h
      exact .inr (.inl (registerManifests_error hmanifests))
    · rename_i highlighter hmanifests
      exact .inr (.inr ⟨config, highlighter, ⟨config, hconfig, hmanifests⟩, h⟩)

theorem of_run_failed {words : List String} {arguments : Arguments}
    (harguments : Arguments.ofList words = .ok arguments)
    (h : run surroundings words = .failed report) :
    serve surroundings arguments = .error report := by
  rw [run, harguments] at h
  dsimp only at h
  cases hserve : serve surroundings arguments with
  | ok text =>
    rw [hserve] at h
    cases h
  | error reason =>
    rw [hserve] at h
    exact congrArg Except.error (Outcome.failed.inj h)

/-- A report on highlighting comes from the highlighter that the configuration and the manifests
make, and it has the causes of its failure. -/
theorem of_run_failed_to_highlight {words : List String} {arguments : Arguments} {request : Request}
    {input : Input} {language : String} {causes : List String} (hcauses : causes ≠ [])
    (harguments : Arguments.ofList words = .ok arguments)
    (hrequest : Request.ofArguments arguments = .ok request)
    (haction : request.action = .highlight input language)
    (h : run surroundings words = .failed ⟨"Failed to highlight as " ++ language, causes⟩) :
    ∃ highlighter code options failure,
      Prepares surroundings request highlighter ∧
      (highlighter.highlight surroundings.engine code language options).1 = .error failure ∧
      causes = failure.causes := by
  -- The attempts are told apart by their eleventh letters.
  rcases serve_error hrequest (of_run_failed harguments h) with
    hnone | ⟨path, hpath⟩ | ⟨config, highlighter, hprepares, hperform⟩
  · exact absurd hnone hcauses
  · have hletter := congrArg (·.toList[10]?) hpath
    simp at hletter
  · rcases perform_error haction hperform with
      ⟨name, hname⟩ | ⟨code, options, failure, hfail, hreport⟩
    · have hletter := congrArg (·.toList[10]?) hname
      simp at hletter
    · exact ⟨highlighter, code, options, failure, hprepares, hfail, congrArg Report.causes hreport⟩

/-! ## Detected languages -/

theorem language_of_action {arguments : Arguments} {input : Input} {language : String}
    (h : Action.ofArguments arguments = .ok (.highlight input language)) :
    input.language arguments.language = .ok language := by
  rw [Action.ofArguments] at h
  split at h
  · cases h
  · split at h
    · cases h
    · dsimp only at h
      cases hlanguage : (Input.ofPath arguments.path).language arguments.language with
      | error failure =>
        rw [hlanguage] at h
        cases h
      | ok found =>
        rw [hlanguage] at h
        cases h
        exact hlanguage

theorem action_of_request {arguments : Arguments} {request : Request}
    (h : Request.ofArguments arguments = .ok request) :
    Action.ofArguments arguments = .ok request.action := by
  rw [Request.ofArguments] at h
  cases haction : Action.ofArguments arguments with
  | error failure =>
    rw [haction] at h
    cases h
  | ok action =>
    rw [haction] at h
    cases h
    rfl

/-- A file whose language is not named goes by its path. -/
theorem detected_of_request {arguments : Arguments} {request : Request} {path language : String}
    (hrequest : Request.ofArguments arguments = .ok request) (hunnamed : arguments.language = none)
    (haction : request.action = .highlight (.file path) language) :
    languageForPath? path = some language := by
  have hlanguage := language_of_action (haction ▸ action_of_request hrequest)
  rw [hunnamed, Input.language] at hlanguage
  split at hlanguage
  · rename_i found hfound
    cases hlanguage
    exact hfound
  · cases hlanguage

/-- A call that leaves the language of a file to be detected asks for a language that is registered
when the code is highlighted, whatever manifests are registered before. So the highlighter never
finds it unknown, and no run reports that. What is detected is decided by the extension of the path
in lower case, and all languages of the library are detected. -/
theorem detected_language_is_known :
    (∀ (surroundings : Surroundings) {words : List String} {arguments : Arguments}
        {request : Request} {path language : String},
      Arguments.ofList words = .ok arguments →
      Request.ofArguments arguments = .ok request →
      arguments.language = none →
      request.action = .highlight (.file path) language →
      languageForPath? path = some language ∧
      (∀ config, loadConfig surroundings request.config = .ok config →
        (∀ manifest ∈ request.manifests,
          ∃ definition, Definition.ofFile surroundings.files manifest = .ok definition) →
        ∃ highlighter, Prepares surroundings request highlighter) ∧
      (∀ highlighter, Prepares surroundings request highlighter →
        language ∈ highlighter.registry.ids ∧
        ∀ code theme timeout id,
          (highlighter.highlightInline surroundings.engine code language theme timeout).1 ≠
            .error (.unknownLanguage id)) ∧
      ∀ id, run surroundings words ≠
        .failed ⟨"Failed to highlight as " ++ language, (Failure.unknownLanguage id).causes⟩) ∧
    (∀ path extension, PathText.HasExtension path extension →
      languageForPath? path = languageForExtension? (Text.lowercase extension)) ∧
    (∀ path, (∀ extension, ¬ PathText.HasExtension path extension) →
      languageForPath? path = none) ∧
    ∀ definition ∈ Definition.builtins, ∃ path, languageForPath? path = some definition.id := by
  refine ⟨?_, fun _ _ => languageForPath?_of_extension, fun _ => languageForPath?_of_none,
    fun _ => exists_detected⟩
  intro surroundings words arguments request path language harguments hrequest hunnamed haction
  have hdetected := detected_of_request hrequest hunnamed haction
  obtain ⟨definition, hdefinition, rfl⟩ := exists_builtin_of_detected hdetected
  refine ⟨hdetected, fun _ => exists_prepares, ?_, ?_⟩
  · intro highlighter hprepares
    have hequipped := hprepares.equipped
    exact ⟨hequipped.mem_ids hdefinition, hequipped.highlightInline_ne_unknown _ hdefinition⟩
  · intro id hrun
    obtain ⟨highlighter, code, options, failure, hprepares, hfail, hcauses⟩ :=
      of_run_failed_to_highlight (by simp [Failure.causes]) harguments hrequest haction hrun
    obtain ⟨other, rfl⟩ := Failure.of_causes_eq_unknown hcauses.symm
    exact hprepares.equipped.highlight_ne_unknown _ hdefinition code options other hfail

namespace Spoiled

/-- A file of the language whose place the manifest takes. -/
def fileWords : List String := ["--strict", "--language-file", "go.json", "src/Main.GO"]

def fileArguments : Arguments :=
  { Arguments.none with path := "src/Main.GO", strict := true, manifests := ["go.json"] }

def fileRequest : Request where
  action := .highlight (.file "src/Main.GO") "go"
  theme := none
  strict := true
  timeout := none
  config := none
  manifests := ["go.json"]

end Spoiled

open Spoiled in
/-- A spoiled manifest for a language of the library leaves its files detected and its id known. -/
theorem detected_language_is_known_to_spoiled :
    languageForPath? "src/Main.GO" = some "go" ∧
      (∃ highlighter, Prepares setting fileRequest highlighter ∧
        "go" ∈ highlighter.registry.ids) ∧
      run setting fileWords ≠
        .failed ⟨"Failed to highlight as go", (Failure.unknownLanguage "go").causes⟩ := by
  have harguments : Arguments.ofList fileWords = .ok fileArguments := rfl
  have hrequest : Request.ofArguments fileArguments = .ok fileRequest := by decide +kernel
  have hmanifests : ∀ manifest ∈ fileRequest.manifests,
      ∃ definition, Definition.ofFile setting.files manifest = .ok definition := by
    intro manifest hmanifest
    obtain rfl := List.mem_singleton.mp hmanifest
    exact ⟨_, ofFile_manifest⟩
  obtain ⟨hdetected, hprepared, hknown, hrun⟩ :=
    detected_language_is_known.1 setting harguments hrequest rfl rfl
  obtain ⟨highlighter, hprepares⟩ := hprepared _ rfl hmanifests
  exact ⟨hdetected, ⟨highlighter, hprepares, (hknown highlighter hprepares).1⟩, hrun "go"⟩

end CommandLine

end CodeHighlight
