import CodeHighlight.Registry.Basic

/-! # The stages of a load

A load asks in turn for a loader, a definition, a query, a grammar, a linked-in form of the grammar,
a parser that takes it and a query that fits it. The first stage that fails says what is wrong. -/
namespace CodeHighlight

/-- The query picks out the captures, and it is not blank. -/
def Definition.Highlights (definition : Definition) (query : Query) : Prop :=
  definition.queries.highlights = some query ∧ query.isBlank = false

/-- What a definition is called that is registered under the id: by its own id if it has one. -/
def Definition.calledUnder (definition : Definition) (id : String) : String :=
  if definition.id.isEmpty then id else definition.id

/-- The bytes of a grammar that is not linked in, decoded or downloaded where they have to be. -/
inductive Grammar.Yields (engine : Engine) : Grammar → List UInt8 → Prop where
  | binary {bytes : List UInt8} : Yields engine (.binary bytes) bytes
  | embedded {text : String} {bytes : List UInt8} :
    Grammar.decodeEmbedded text = .ok bytes → Yields engine (.embedded text) bytes
  | url {address : String} {bytes : List UInt8} :
    engine.download address = some bytes → Yields engine (.url address) bytes

/-- Why a grammar that is not linked in cannot be made ready: there are no bytes, or nothing here
runs them. -/
inductive Grammar.Unusable (engine : Engine) (name : String) : Grammar → String → Prop where
  | undecoded {text reason : String} :
    Grammar.decodeEmbedded text = .error (.backendUnavailable reason) →
    Unusable engine name (.embedded text) reason
  | absent {address : String} : engine.download address = none →
    Unusable engine name (.url address) ((engine.downloadFailure address).message address)
  | unsupported {grammar : Grammar} {bytes : List UInt8} : grammar.Yields engine bytes →
    Unusable engine name grammar
      ("cannot compile binary grammar for \"" ++ name ++
        "\": built without the \x60wasm\x60 feature")

/-- The first thing that is wrong with a definition registered under the id. -/
inductive Definition.Defect (engine : Engine) (id : String) (definition : Definition) :
    Failure → Prop where
  | query : (∀ query, ¬ definition.Highlights query) →
    Defect engine id definition (.invalidLanguage definition.id "missing highlights query")
  | grammar {query : Query} : definition.Highlights query → definition.grammar = none →
    Defect engine id definition
      (.invalidLanguage id "no grammar: provide a binary grammar or a grammar URL")
  | compilation {query : Query} {grammar : Grammar} {reason : String} :
    definition.Highlights query → definition.grammar = some grammar →
    grammar.Unusable engine (definition.calledUnder id) reason →
    Defect engine id definition (.backendUnavailable reason)
  | refusal {query : Query} {native : NativeGrammar} {reason : String} :
    definition.Highlights query → definition.grammar = some (.native native) →
    engine.refusal native = some reason →
    Defect engine id definition
      (.backendUnavailable ("grammar for \"" ++ id ++ "\" is incompatible: " ++ reason))
  | malformed {query : Query} {native : NativeGrammar} {reason : String} :
    definition.Highlights query → definition.grammar = some (.native native) →
    engine.refusal native = none → engine.compileQuery native query = .error reason →
    Defect engine id definition (.invalidLanguage id ("malformed highlights query: " ++ reason))

/-- Nothing is wrong with the definition, and this is the state that it makes. -/
def Definition.Makes (engine : Engine) (id : String) (definition : Definition)
    (state : LanguageState) : Prop :=
  ∃ query native captureNames, definition.Highlights query ∧
    definition.grammar = some (.native native) ∧ engine.refusal native = none ∧
    engine.compileQuery native query = .ok captureNames ∧
    state = ⟨id, native, query, captureNames⟩

namespace Registry

/-- The id is registered, and its loader answers the next call with this. -/
def Resolves (registry : Registry) (id : String) (answer : Except Failure Definition) : Prop :=
  ∃ loader, registry.loaders.get? id = some loader ∧ (loader.resolve registry.calls).1 = answer

/-- Where a load of a language that is not loaded comes to an end, and with what. -/
inductive FailsWith (engine : Engine) (registry : Registry) (id : String) : Failure → Prop where
  | unregistered : registry.loaders.get? id = none →
    FailsWith engine registry id (.unknownLanguage id)
  | loader {failure : Failure} : registry.Resolves id (.error failure) →
    FailsWith engine registry id failure
  | definition {definition : Definition} {failure : Failure} :
    registry.Resolves id (.ok definition) → definition.Defect engine id failure →
    FailsWith engine registry id failure

end Registry

end CodeHighlight
