import CodeHighlight.CommandLine.Run
import CodeHighlight.Proofs.CommandLine.Timeouts
import CodeHighlight.Proofs.Highlighter.Blocks

/-! # What a lenient call prints

The highlighter of a call has the default theme, and all its loaders are definitions: the languages
of the library and those of manifests. Definitions never refuse, and the deadline of a call can
always be set, so once the files that the call names are read nothing keeps it from printing its
code in a block. -/
namespace CodeHighlight

open CodeHighlight.Markup

namespace Highlighter

variable {highlighter : Highlighter}

/-! ## Highlighters that never refuse -/

/-- There is a theme to choose, and no loader answers with a failure. -/
structure Ready (highlighter : Highlighter) : Prop where
  hasDefault : highlighter.themes.HasDefault
  definitions : ∀ id loader, highlighter.registry.loaders.get? id = some loader →
    ∃ definition, loader = .value definition

theorem Ready.not_refuses (h : highlighter.Ready) (id : String) (failure : Failure) :
    ¬ highlighter.registry.Refuses id failure := by
  rintro ⟨-, loader, hloader, hanswer⟩
  obtain ⟨definition, rfl⟩ := h.definitions id loader hloader
  cases hanswer

theorem Ready.registerLanguage (h : highlighter.Ready) (id : String) (definition : Definition) :
    (highlighter.registerLanguage id (.value definition)).Ready where
  hasDefault := h.hasDefault
  definitions := by
    intro name loader hloader
    change (highlighter.registry.loaders.insert id (.value definition)).get? name = some loader
      at hloader
    rw [Catalog.get?_insert] at hloader
    split at hloader
    · exact ⟨definition, (Option.some.inj hloader).symm⟩
    · exact h.definitions name loader hloader

theorem Ready.registerDefinitions (h : highlighter.Ready) (definitions : List Definition) :
    (definitions.foldl (fun highlighter definition =>
      highlighter.registerLanguage definition.id (.value definition)) highlighter).Ready := by
  induction definitions generalizing highlighter with
  | nil => exact h
  | cons definition definitions ih => exact ih (h.registerLanguage definition.id definition)

/-- Whatever the configuration and the theme directories hold. -/
theorem ready_ofConfig (files : FileSystem) (environment : Environment) (config : Config) :
    (ofConfig files environment config).Ready := by
  have hdefault := (Initial.configured files environment config).hasDefault
  rw [ofConfig, themes_registerBuiltinLanguages] at hdefault
  rw [ofConfig, registerBuiltinLanguages]
  refine Ready.registerDefinitions ⟨hdefault, ?_⟩ _
  intro id loader hloader
  cases hloader

/-- A lenient call answers with a block that the code can be read from. -/
theorem Ready.highlight_lenient (h : highlighter.Ready) (engine : Engine) (code language : String)
    (options : HighlightOptions) (hlenient : options.strict = false) :
    ∃ block : BlockMarkup,
      (highlighter.highlight engine code language options).1 = .ok (String.ofList block.write) ∧
      unescape (dropTags block.write) = code.toList := by
  have hanswers : ∃ html, (highlighter.highlight engine code language options).1 = .ok html := by
    rw [Failure.exists_ok_iff]
    intro failure hfail
    exact h.not_refuses _ _ ((highlight_error_iff h.hasDefault hlenient).mp hfail).2
  obtain ⟨html, hhtml⟩ := hanswers
  obtain ⟨theme, captures, -, rfl⟩ := highlight_eq_block hhtml
  obtain ⟨block, hblock, -, htext⟩ := exists_block theme code captures
  exact ⟨block, hblock ▸ hhtml, htext⟩

end Highlighter

namespace CommandLine

/-! ## From the arguments to the block -/

theorem exists_loadConfig {surroundings : Surroundings} {path : Option String}
    (h : ∀ named, path = some named →
      ∃ config, Config.loadFrom surroundings.files named = .ok config) :
    ∃ config, loadConfig surroundings path = .ok config := by
  cases path with
  | none => exact ⟨_, rfl⟩
  | some named =>
    obtain ⟨config, hconfig⟩ := h named rfl
    exact ⟨config, by rw [loadConfig, hconfig]⟩

/-- Manifests that can be read leave the highlighter ready, whatever grammars and queries they
bring. -/
theorem exists_registerManifests {files : FileSystem} {paths : List String}
    (h : ∀ path ∈ paths, ∃ definition, Definition.ofFile files path = .ok definition)
    {highlighter : Highlighter} (hready : highlighter.Ready) :
    ∃ registered, registerManifests files highlighter paths = .ok registered ∧
      registered.Ready := by
  induction paths generalizing highlighter with
  | nil => exact ⟨highlighter, rfl, hready⟩
  | cons path paths ih =>
    obtain ⟨definition, hdefinition⟩ := h path List.mem_cons_self
    obtain ⟨registered, hregistered, hafter⟩ :=
      ih (fun other hmem => h other (List.mem_cons_of_mem _ hmem))
        (hready.registerLanguage definition.id definition)
    refine ⟨registered, ?_, hafter⟩
    rw [registerManifests] at hregistered ⊢
    rw [List.foldlM_cons, hdefinition]
    exact hregistered

/-- A call that asks for code, and not to be told of failures, ends well and prints the code in one
block, once its configuration, its manifests and its input are read. No deadline breaks it off. -/
theorem run_prints_block {surroundings : Surroundings} {words : List String}
    {arguments : Arguments} {request : Request} {input : Input} {language code : String}
    (harguments : Arguments.ofList words = .ok arguments)
    (hrequest : Request.ofArguments arguments = .ok request)
    (haction : request.action = .highlight input language)
    (hstrict : request.strict = false)
    (hnamed : ∀ path, request.config = some path →
      ∃ config, Config.loadFrom surroundings.files path = .ok config)
    (hlenient : ∀ config, loadConfig surroundings request.config = .ok config →
      config.strict = false)
    (hmanifests : ∀ path ∈ request.manifests,
      ∃ definition, Definition.ofFile surroundings.files path = .ok definition)
    (hcode : readInput surroundings input = .ok code) :
    surroundings.engine.CanTime request.timeout ∧
    ∃ block : BlockMarkup,
      (run surroundings words).exitCode = 0 ∧
      (run surroundings words).stdout = String.ofList block.write ++ "\n" ∧
      unescape (dropTags block.write) = code.toList := by
  refine ⟨canTime_of_request harguments hrequest surroundings.engine, ?_⟩
  obtain ⟨config, hconfig⟩ := exists_loadConfig hnamed
  obtain ⟨highlighter, hhighlighter, hready⟩ := exists_registerManifests hmanifests
    (Highlighter.ready_ofConfig surroundings.files surroundings.environment config)
  have hoptions : (request.strict || config.strict) = false := by
    rw [hstrict, hlenient config hconfig, Bool.or_false]
  obtain ⟨block, hblock, htext⟩ := hready.highlight_lenient surroundings.engine code language
    ⟨request.theme, request.strict || config.strict, request.timeout⟩ hoptions
  have hperform : perform surroundings request config highlighter =
      .ok (printLines [String.ofList block.write]) := by
    simp only [perform, haction, hcode, bind, Except.bind, hblock]
  have hserve : serve surroundings arguments = .ok (printLines [String.ofList block.write]) := by
    simp only [serve, hrequest, hconfig, bind, Except.bind, hhighlighter, hperform]
  have hrun : run surroundings words = .printed (String.ofList block.write ++ "\n") := by
    simp [run, harguments, hserve, Outcome.ofExcept, printLines]
  exact ⟨block, by rw [hrun]; rfl, by rw [hrun]; rfl, htext⟩

namespace Spoiled

/-- A manifest that takes the place of a language of the library, without a query and with a grammar
that cannot be decoded. -/
def manifest : String := "\x7b\"id\":\"go\",\"wasm\":\"?\"\x7d"

def files : FileSystem where
  read := fun path =>
    if path = "go.json" then .ok manifest
    else if path = "config.yaml" then .ok "strict: false"
    else .error .notFound
  list := fun _ => none

def setting : Surroundings where
  files
  environment := ⟨none, none⟩
  stdin := .ok "<a> & b"
  engine := Highlighter.Counterexample.silentEngine

def words : List String :=
  ["--config=config.yaml", "--timeout-ms", "5000", "--language-file", "go.json", "-l", "go", "-"]

def arguments : Arguments :=
  { Arguments.none with
    path := "-", language := "go", timeout := some 5000, config := "config.yaml",
    manifests := ["go.json"] }

def request : Request where
  action := .highlight .stdin "go"
  theme := none
  strict := false
  timeout := some 5000
  config := some "config.yaml"
  manifests := ["go.json"]

theorem loadFrom_config : Config.loadFrom files "config.yaml" = .ok .default := by
  have hdocument : Yaml.decode? Config.decode "strict: false" = some .default := by decide +kernel
  have hread : files.read "config.yaml" = .ok "strict: false" := rfl
  rw [Config.loadFrom, hread]
  dsimp only
  rw [hdocument]

theorem ofFile_manifest :
    Definition.ofFile files "go.json" = .ok ⟨"go", some (.embedded "?"), .absent⟩ := by
  have hdocument : Json.decode? Definition.decode manifest =
      some ⟨"go", some (.embedded "?"), .absent⟩ := by decide +kernel
  have hread : files.read "go.json" = .ok manifest := rfl
  have hextension : PathText.extension? "go.json" = some "json" := by decide +kernel
  rw [Definition.ofFile, Failure.bind_eq_ok_iff]
  refine ⟨manifest, by rw [hread]; rfl, ?_⟩
  rw [if_pos hextension, Definition.ofJson, hdocument]

theorem loadConfig_request : loadConfig setting request.config = .ok .default := by
  change loadConfig setting (some "config.yaml") = _
  rw [loadConfig, show setting.files = files from rfl, loadFrom_config]

end Spoiled

open Spoiled in
/-- The code is printed though its language cannot be loaded. -/
theorem run_prints_block_of_spoiled :
    setting.engine.CanTime (some 5000) ∧
    ∃ block : BlockMarkup,
      (run setting words).exitCode = 0 ∧
      (run setting words).stdout = String.ofList block.write ++ "\n" ∧
      unescape (dropTags block.write) = "<a> & b".toList := by
  have harguments : Arguments.ofList words = .ok arguments := rfl
  have hrequest : Request.ofArguments arguments = .ok request := rfl
  have hnamed : ∀ path, request.config = some path →
      ∃ config, Config.loadFrom setting.files path = .ok config := by
    intro path hpath
    obtain rfl := Option.some.inj hpath
    exact ⟨_, loadFrom_config⟩
  have hlenient : ∀ config, loadConfig setting request.config = .ok config →
      config.strict = false := by
    intro config hconfig
    obtain rfl := Except.ok.inj (loadConfig_request.symm.trans hconfig)
    rfl
  have hmanifests : ∀ path ∈ request.manifests,
      ∃ definition, Definition.ofFile setting.files path = .ok definition := by
    intro path hpath
    obtain rfl := List.mem_singleton.mp hpath
    exact ⟨_, ofFile_manifest⟩
  exact run_prints_block harguments hrequest rfl rfl hnamed hlenient hmanifests rfl

end CommandLine

end CodeHighlight
