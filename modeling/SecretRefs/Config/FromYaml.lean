import SecretRefs.Config
import SecretRefs.Yaml.Value

/-! Reading the types of the configuration from YAML. -/

namespace SecretRefs

open Yaml (Document Fault Node Path Walk)

namespace Yaml

/-- A fault of shape at a place. -/
def fit {α : Type} (path : Path) : Except Mismatch α → Walk α
  | .ok value => return value
  | .error cause => throw (.mismatch path cause)

/-- Folds the entries of a record. The fold step gets the name, the path to the value, and the value. -/
def foldFields {σ : Type} (d : Document) (path : Path) (expected : String) (node : Option Node)
    (start : σ) (field : String → Path → σ → Node → Walk σ) : Walk σ := do
  let entries ← d.entries path expected node
  entries.foldlM
    (fun state entry => do
      let name ← d.text path entry.1
      field name (path.valueOf entry.1) state entry.2)
    start

end Yaml

open Yaml (fit)

namespace Namespace

/-- A namespace inside of a document. What is wrong with its text is told without a path. -/
def walkYaml (d : Document) (path : Path) (node : Node) : Walk Namespace := do
  let text ← d.text path node
  fit .root (ofDocumentText text)

/-- A document that is a namespace. Its text is looked at only when the whole document is in order. -/
def ofYaml (text : String) : Except Fault Namespace := do
  let name ← Document.decode text fun d => d.text .root (d.root.getD .missing)
  (ofDocumentText name).mapError (.mismatch .root)

end Namespace

namespace ParameterKind

/-- A kind is a scalar with its name, or a local tag of that name on nothing. -/
def walkYaml (d : Document) (path : Path) (node : Node) : Walk ParameterKind := do
  let node ← d.follow node
  match node.localTag?, node with
  | some name, .scalar _ style text => do
    let kind ← fit path (ofDocumentText name)
    if style = .plain ∧ (text = "" ∨ Yaml.isNullText text) then return kind
    else throw (.mismatch path (.wrongType (Yaml.Value.string text).found "unit"))
  | some name, node => do
    let _ ← fit path (ofDocumentText name)
    throw (d.unfit path "unit" node)
  | none, .scalar _ _ text => fit path (ofDocumentText text)
  | none, node => throw (d.unfit path "a YAML tag starting with '!'" node)

def ofYaml (text : String) : Except Fault ParameterKind :=
  Document.decode text fun d => walkYaml d .root (d.root.getD .missing)

end ParameterKind

namespace ExposureFlags

def walkYaml (d : Document) (path : Path) (node : Option Node) : Walk ExposureFlags := do
  let draft ← Yaml.foldFields d path "struct BehaviourFlags" node ({} : Draft)
    fun name place draft node => do
      match ← fit path (draft.newField name) with
      | some field => return draft.set (← d.bool place node) field
      | none => do
        d.skip node
        return draft
  return draft.complete

def ofYaml (text : String) : Except Fault ExposureFlags :=
  Document.decode text fun d => walkYaml d .root d.root

end ExposureFlags

namespace Config

def walkYaml (d : Document) (path : Path) (node : Option Node) : Walk Config := do
  let draft ← Yaml.foldFields d path "struct VaultRefConfigFile" node ({} : Draft)
    fun name place draft node => do
      match ← fit path (draft.newField name) with
      | .secretNamespace =>
        return { draft with secretNamespace := some (← Namespace.walkYaml d place node) }
      | .behaviour =>
        return { draft with behaviour := some (← ExposureFlags.walkYaml d place node) }
      | .failOnUnresolved => return { draft with failOnUnresolved := some (← d.bool place node) }
  return draft.complete

def ofYaml (text : String) : Except Fault Config :=
  Document.decode text fun d => walkYaml d .root d.root

end Config

end SecretRefs
