import SecretRefs.Config.FromJson
import SecretRefs.Config.FromYaml
import SecretRefs.Proofs.Json.Compact
import SecretRefs.Proofs.Json.Suffix
import SecretRefs.Proofs.Namespace

/-! Configurations in documents. A configuration that is written is read back as it is, and so are namespaces and flags by
themselves. What is read from any document, JSON or YAML, has a namespace that passes the same checks as one that a user
gives. Its text is written in the document, unless there is none and the standard one is taken. -/

namespace SecretRefs

open Json (Consumes Keeps Takes TakesMembers fit)
open Yaml (Document Walk)

/-! ### Written and read back -/

theorem Namespace.fit_ofDocumentText_eq_ok_iff {text : String} {ns : Namespace} :
    fit (ofDocumentText text) = .ok ns ↔ parse text = .ok ns := by
  rw [ofDocumentText, parse]
  cases ofText text <;> simp [fit]

theorem Namespace.takes_readJson (text : String) :
    Takes readJson (.string text) (fit (ofDocumentText text)) := by
  intro rest
  rw [readJson, Json.takes_readString]
  change (fit (ofDocumentText text)).bind _ = _
  cases fit (ofDocumentText text) <;> rfl

namespace ExposureFlags

/-- A field is found by its name, and not again once it is there. -/
theorem Draft.newField_name (d : Draft) (field : Field) :
    d.newField field.name =
      if d.has field then .error (.duplicateField field.name) else .ok (some field) := by
  cases field <;> rfl

theorem readMember_name {d : Draft} (field : Field) (h : d.has field = false) (b : Bool) (rest : List Char) :
    readMember field.name d (':' :: ((Json.Value.bool b).compact.toList ++ rest)) = .ok (d.set b field, rest) := by
  rw [readMember, Draft.newField_name, h, if_neg Bool.false_ne_true]
  change readFlag field d ((Json.Value.bool b).compact.toList ++ rest) = _
  rw [readFlag, Json.takes_readBool]
  rfl

theorem takes_readJson (flags : ExposureFlags) : Takes readJson flags.document (.ok flags) := by
  intro rest
  have hmembers : TakesMembers readMember {}
      [("expose_env", .bool flags.exposeEnv), ("expose_config", .bool flags.exposeConfig)]
      (.ok ⟨some flags.exposeEnv, some flags.exposeConfig⟩) :=
    .cons_ok (readMember_name .exposeEnv rfl flags.exposeEnv) <|
      .cons_ok (readMember_name .exposeConfig rfl flags.exposeConfig) .nil
  have hread := hmembers.takes_readRecord "struct BehaviourFlags" [readFlag .exposeEnv, readFlag .exposeConfig] rest
  rw [readJson, document, hread]
  rfl

end ExposureFlags

namespace Config

theorem Draft.newField_name (d : Draft) (field : Field) :
    d.newField field.name = if d.has field then .error (.duplicateField field.name) else .ok field := by
  cases field <;> rfl

theorem readMember_name {d : Draft} (field : Field) (h : d.has field = false) (rest : List Char) :
    readMember field.name d (':' :: rest) = readField field d rest := by
  rw [readMember, Draft.newField_name, h, if_neg Bool.false_ne_true]
  rfl

/-- A document of a configuration, whatever text stands for its namespace. -/
def documentOf (text : String) (behaviour : ExposureFlags) (failOnUnresolved : Bool) : Json.Value :=
  .object
    [("namespace", .string text), ("behaviour", behaviour.document), ("fail_on_unresolved", .bool failOnUnresolved)]

theorem readMember_namespace (text : String) (rest : List Char) :
    readMember "namespace" {} (':' :: ((Json.Value.string text).compact.toList ++ rest)) =
      ((fit (Namespace.ofDocumentText text)).map fun ns => { secretNamespace := some ns }).map (·, rest) := by
  refine (readMember_name .secretNamespace rfl _).trans ?_
  rw [readField, Namespace.takes_readJson]
  cases fit (Namespace.ofDocumentText text) <;> rfl

theorem readMember_behaviour {d : Draft} (h : d.behaviour = none) (behaviour : ExposureFlags) (rest : List Char) :
    readMember "behaviour" d (':' :: (behaviour.document.compact.toList ++ rest)) =
      .ok ({ d with behaviour := some behaviour }, rest) := by
  refine (readMember_name .behaviour (by rw [Draft.has, h]; rfl) _).trans ?_
  rw [readField, ExposureFlags.takes_readJson]
  rfl

theorem readMember_failOnUnresolved {d : Draft} (h : d.failOnUnresolved = none) (b : Bool) (rest : List Char) :
    readMember "fail_on_unresolved" d (':' :: ((Json.Value.bool b).compact.toList ++ rest)) =
      .ok ({ d with failOnUnresolved := some b }, rest) := by
  refine (readMember_name .failOnUnresolved (by rw [Draft.has, h]; rfl) _).trans ?_
  rw [readField, Json.takes_readBool]
  rfl

/-- The text for the namespace decides, and everything else is read as it was written. -/
theorem takes_readJson (text : String) (behaviour : ExposureFlags) (failOnUnresolved : Bool) :
    Takes readJson (documentOf text behaviour failOnUnresolved)
      ((fit (Namespace.ofDocumentText text)).map fun ns => ⟨ns, behaviour, failOnUnresolved⟩) := by
  intro rest
  have hmembers : TakesMembers readMember {}
      [("namespace", .string text), ("behaviour", behaviour.document), ("fail_on_unresolved", .bool failOnUnresolved)]
      (((fit (Namespace.ofDocumentText text)).map fun ns => ({ secretNamespace := some ns } : Draft)).bind fun d =>
        .ok { d with behaviour := some behaviour, failOnUnresolved := some failOnUnresolved }) := by
    refine .cons (readMember_namespace text) fun d hd => ?_
    have hrest : d.behaviour = none ∧ d.failOnUnresolved = none := by
      cases hns : fit (Namespace.ofDocumentText text) with
      | error fault =>
          rw [hns] at hd
          cases hd
      | ok ns =>
          rw [hns] at hd
          cases hd
          exact ⟨rfl, rfl⟩
    exact .cons_ok (readMember_behaviour hrest.1 behaviour) <|
      .cons_ok (readMember_failOnUnresolved (d := { d with behaviour := some behaviour }) hrest.2 failOnUnresolved) .nil
  have hread := hmembers.takes_readRecord "struct VaultRefConfigFile" (fields.map readField) rest
  rw [readJson, documentOf, hread]
  cases fit (Namespace.ofDocumentText text) <;> rfl

end Config

/-! ### Read from JSON -/

theorem Json.finish_eq_ok_iff {α : Type} {x : Except Fault (α × List Char)} {a : α} :
    finish x = .ok a ↔ ∃ rest, x = .ok (a, rest) ∧ (skipBlank rest).isEmpty = true := by
  simp only [finish, bind_eq_ok_iff, Prod.exists]
  constructor
  · rintro ⟨b, rest, hx, h⟩
    split at h
    · next hend =>
      obtain rfl := Except.ok.inj h
      exact ⟨rest, hx, hend⟩
    · cases h
  · rintro ⟨rest, hx, hend⟩
    exact ⟨a, rest, hx, if_pos hend⟩

/-- A string stands somewhere in a text. -/
def Json.HoldsString (cs : List Char) (text : String) : Prop :=
  ∃ part rest, part <:+ cs ∧ readString "a string" part = .ok (text, rest)

theorem Namespace.readJson_eq_ok_iff {cs rest : List Char} {ns : Namespace} :
    readJson cs = .ok (ns, rest) ↔ ∃ text, Json.readString "a string" cs = .ok (text, rest) ∧ parse text = .ok ns := by
  simp only [readJson, bind_eq_ok_iff, Prod.exists, Except.ok.injEq, Prod.mk.injEq, ← fit_ofDocumentText_eq_ok_iff]
  constructor
  · rintro ⟨text, _, hread, _, hfit, rfl, rfl⟩
    exact ⟨text, hread, hfit⟩
  · rintro ⟨text, hread, hfit⟩
    exact ⟨text, rest, hread, ns, hfit, rfl, rfl⟩

theorem Namespace.ofJson_eq_ok_iff {doc : String} {ns : Namespace} :
    ofJson doc = .ok ns ↔
      ∃ text, Json.finish (Json.readString "a string" doc.toList) = .ok text ∧ parse text = .ok ns := by
  simp only [ofJson, Json.finish_eq_ok_iff, readJson_eq_ok_iff]
  constructor
  · rintro ⟨rest, ⟨text, hread, hparse⟩, hend⟩
    exact ⟨text, ⟨rest, hread, hend⟩, hparse⟩
  · rintro ⟨text, ⟨rest, hread, hend⟩, hparse⟩
    exact ⟨rest, ⟨text, hread, hparse⟩, hend⟩

namespace ExposureFlags

theorem keeps_readFlag (cs : List Char) (field : Field) : Keeps (fun _ rest => rest <:+ cs) (readFlag field) := by
  intro d part t rest hpart h
  simp only [readFlag, bind_eq_ok_iff, Prod.exists, Except.ok.injEq, Prod.mk.injEq] at h
  obtain ⟨_, _, hread, -, rfl⟩ := h
  exact (Json.consumes_readBool hread).trans hpart

theorem keeps_readMember (cs : List Char) (name : String) : Keeps (fun _ rest => rest <:+ cs) (readMember name) := by
  intro d part t rest hpart h
  simp only [readMember, bind_eq_ok_iff] at h
  obtain ⟨field, -, h⟩ := h
  cases field with
  | some field =>
      simp only [bind_eq_ok_iff] at h
      obtain ⟨_, hcolon, hread⟩ := h
      exact keeps_readFlag cs field ((Json.suffix_of_readColon hcolon).trans hpart) hread
  | none =>
      simp only [bind_eq_ok_iff, Except.ok.injEq, Prod.mk.injEq] at h
      obtain ⟨_, hcolon, _, hskip, -, rfl⟩ := h
      exact (Json.suffix_of_skipValue hskip).trans ((Json.suffix_of_readColon hcolon).trans hpart)

theorem consumes_readJson : Consumes readJson := by
  intro cs flags rest h
  simp only [readJson, bind_eq_ok_iff, Prod.exists, Except.ok.injEq, Prod.mk.injEq] at h
  obtain ⟨d, _, hread, -, rfl⟩ := h
  have hfields := List.forall_mem_cons.2
    ⟨keeps_readFlag cs .exposeEnv, List.forall_mem_singleton.2 (keeps_readFlag cs .exposeConfig)⟩
  exact Keeps.readRecord (fun _ _ _ => List.IsSuffix.trans) (keeps_readMember cs) hfields _ (List.suffix_refl cs) hread

end ExposureFlags

namespace Config

/-- A namespace that has been read was written in the document, and the reader is still in the document. -/
def ReadFrom (doc : List Char) (d : Draft) (rest : List Char) : Prop :=
  rest <:+ doc ∧ ∀ ns ∈ d.secretNamespace, Json.HoldsString doc ns.text

variable {doc : List Char}

theorem ReadFrom.of_suffix ⦃d : Draft⦄ ⦃cs rest : List Char⦄ (hrest : rest <:+ cs) (h : ReadFrom doc d cs) :
    ReadFrom doc d rest := ⟨hrest.trans h.1, h.2⟩

theorem keeps_readField (field : Field) : Keeps (ReadFrom doc) (readField field) := by
  intro d cs t rest hcs h
  cases field with
  | secretNamespace =>
      simp only [readField, bind_eq_ok_iff, Prod.exists, Except.ok.injEq, Prod.mk.injEq] at h
      obtain ⟨ns, _, hread, rfl, rfl⟩ := h
      obtain ⟨text, hstring, hparse⟩ := Namespace.readJson_eq_ok_iff.1 hread
      obtain rfl := Namespace.parse_eq_ok_iff.1 hparse
      refine ⟨(Json.consumes_readString _ hstring).trans hcs.1, ?_⟩
      rintro _ ⟨⟩
      exact ⟨cs, _, hcs.1, hstring⟩
  | behaviour =>
      simp only [readField, bind_eq_ok_iff, Prod.exists, Except.ok.injEq, Prod.mk.injEq] at h
      obtain ⟨_, _, hread, rfl, rfl⟩ := h
      exact hcs.of_suffix (ExposureFlags.consumes_readJson hread)
  | failOnUnresolved =>
      simp only [readField, bind_eq_ok_iff, Prod.exists, Except.ok.injEq, Prod.mk.injEq] at h
      obtain ⟨_, _, hread, rfl, rfl⟩ := h
      exact hcs.of_suffix (Json.consumes_readBool hread)

theorem keeps_readMember (name : String) : Keeps (ReadFrom doc) (readMember name) := by
  intro d cs t rest hcs h
  simp only [readMember, bind_eq_ok_iff] at h
  obtain ⟨field, -, _, hcolon, hread⟩ := h
  exact keeps_readField field (hcs.of_suffix (Json.suffix_of_readColon hcolon)) hread

/-- The namespace that is read is the standard one or one that is written in the document. -/
theorem secretNamespace_of_ofJson {doc : String} {c : Config} (h : ofJson doc = .ok c) :
    c.secretNamespace = .standard ∨ Json.HoldsString doc.toList c.secretNamespace.text := by
  obtain ⟨_, hread, -⟩ := Json.finish_eq_ok_iff.1 h
  simp only [readJson, bind_eq_ok_iff, Prod.exists, Except.ok.injEq, Prod.mk.injEq] at hread
  obtain ⟨d, _, hread, rfl, rfl⟩ := hread
  have hfields : ∀ field ∈ fields.map readField, Keeps (ReadFrom doc.toList) field := by
    intro _ hfield
    obtain ⟨field, -, rfl⟩ := List.mem_map.1 hfield
    exact keeps_readField field
  have hstart : ReadFrom doc.toList {} doc.toList := ⟨List.suffix_refl _, nofun⟩
  obtain ⟨-, hnamespace⟩ := Keeps.readRecord ReadFrom.of_suffix keeps_readMember hfields _ hstart hread
  rw [Draft.complete]
  cases hns : d.secretNamespace with
  | none => exact .inl rfl
  | some ns => exact .inr (hnamespace ns hns)

end Config

/-! ### Read from YAML -/

namespace Yaml

theorem run_bind_eq_ok_iff {α β : Type} {x : Walk α} {f : α → Walk β} {b : β} {count count' : Nat} :
    (x >>= f).run count = .ok (b, count') ↔
      ∃ a between, x.run count = .ok (a, between) ∧ (f a).run between = .ok (b, count') := by
  rw [StateT.run_bind, bind_eq_ok_iff, Prod.exists]

theorem foldlM_keeps {α σ : Type} {P : σ → Prop} {step : σ → α → Walk σ} {xs : List α}
    (hstep : ∀ x ∈ xs, ∀ {s t : σ} {count count' : Nat}, P s → (step s x).run count = .ok (t, count') → P t)
    {s t : σ} {count count' : Nat} (hs : P s) (h : (xs.foldlM step s).run count = .ok (t, count')) : P t := by
  induction xs generalizing s count with
  | nil =>
      obtain ⟨rfl, -⟩ := Prod.mk.inj (Except.ok.inj h)
      exact hs
  | cons x xs ih =>
      obtain ⟨hx, hxs⟩ := List.forall_mem_cons.1 hstep
      rw [List.foldlM_cons, run_bind_eq_ok_iff] at h
      obtain ⟨u, between, hread, h⟩ := h
      exact ih hxs (hx hs hread) h

theorem exists_run_of_decode {α : Type} {text : String} {work : Document → Walk α} {a : α}
    (h : Document.decode text work = .ok a) : ∃ count, (work (Document.read text)).run 0 = .ok (a, count) := by
  simp only [Document.decode, bind_eq_ok_iff, Prod.exists] at h
  obtain ⟨b, count, hrun, h⟩ := h
  split at h
  · cases h
  · obtain rfl := Except.ok.inj h
    exact ⟨count, hrun⟩

/-- A text is that of the value of one of some entries. -/
def IsValue (d : Document) (entries : List (Node × Node)) (text : String) : Prop :=
  ∃ entry ∈ entries, ∃ path count count', (d.text path entry.2).run count = .ok (text, count')

/-- A text is that of the value of an entry of a document. -/
def HoldsText (doc text : String) : Prop :=
  let d := Document.read doc
  ∃ expected entries count, (d.entries .root expected d.root).run 0 = .ok (entries, count) ∧ IsValue d entries text

end Yaml

namespace Namespace

theorem ofYaml_eq_ok_iff {doc : String} {ns : Namespace} :
    ofYaml doc = .ok ns ↔
      ∃ text, Document.decode doc (fun d => d.text .root (d.root.getD .missing)) = .ok text ∧ parse text = .ok ns := by
  have hmap (text : String) :
      (ofDocumentText text).mapError (Yaml.Fault.mismatch .root) = .ok ns ↔ parse text = .ok ns := by
    rw [ofDocumentText, parse]
    cases ofText text with
    | error defect =>
        constructor <;>
          · intro h
            cases h
    | ok found =>
        constructor <;>
          · rintro ⟨⟩
            rfl
  simp only [ofYaml, bind_eq_ok_iff, hmap]

theorem text_of_walkYaml {d : Document} {path : Yaml.Path} {node : Yaml.Node} {count count' : Nat} {ns : Namespace}
    (h : (walkYaml d path node).run count = .ok (ns, count')) : (d.text path node).run count = .ok (ns.text, count') := by
  obtain ⟨text, _, htext, hfit⟩ := Yaml.run_bind_eq_ok_iff.1 h
  cases hns : ofDocumentText text with
  | error cause =>
      rw [hns] at hfit
      cases hfit
  | ok ns' =>
      rw [hns] at hfit
      obtain ⟨rfl, rfl⟩ := Prod.mk.inj (Except.ok.inj hfit)
      obtain rfl := parse_eq_ok_iff.1 (fit_ofDocumentText_eq_ok_iff.1 (congrArg fit hns))
      exact htext

end Namespace

namespace Config

/-- The namespace that is read is the standard one or one that is written in the document. -/
theorem secretNamespace_of_ofYaml {doc : String} {c : Config} (h : ofYaml doc = .ok c) :
    c.secretNamespace = .standard ∨ Yaml.HoldsText doc c.secretNamespace.text := by
  obtain ⟨_, hrun⟩ := Yaml.exists_run_of_decode h
  obtain ⟨draft, _, hfields, hcomplete⟩ := Yaml.run_bind_eq_ok_iff.1 hrun
  obtain ⟨rfl, -⟩ := Prod.mk.inj (Except.ok.inj hcomplete)
  obtain ⟨entries, _, hentries, hfold⟩ := Yaml.run_bind_eq_ok_iff.1 hfields
  have hdraft : ∀ ns ∈ draft.secretNamespace, Yaml.IsValue (Document.read doc) entries ns.text := by
    refine Yaml.foldlM_keeps (P := fun draft : Draft =>
      ∀ ns ∈ draft.secretNamespace, Yaml.IsValue (Document.read doc) entries ns.text) ?_
      (fun _ h => absurd h (Option.not_mem_none _)) hfold
    intro entry hentry d t _ _ hd hstep
    obtain ⟨_, _, -, hstep⟩ := Yaml.run_bind_eq_ok_iff.1 hstep
    obtain ⟨field, _, -, hstep⟩ := Yaml.run_bind_eq_ok_iff.1 hstep
    cases field with
    | secretNamespace =>
        obtain ⟨ns, _, hread, hstep⟩ := Yaml.run_bind_eq_ok_iff.1 hstep
        obtain ⟨rfl, -⟩ := Prod.mk.inj (Except.ok.inj hstep)
        rintro _ ⟨⟩
        exact ⟨entry, hentry, _, _, _, Namespace.text_of_walkYaml hread⟩
    | behaviour =>
        obtain ⟨_, _, -, hstep⟩ := Yaml.run_bind_eq_ok_iff.1 hstep
        obtain ⟨rfl, -⟩ := Prod.mk.inj (Except.ok.inj hstep)
        exact hd
    | failOnUnresolved =>
        obtain ⟨_, _, -, hstep⟩ := Yaml.run_bind_eq_ok_iff.1 hstep
        obtain ⟨rfl, -⟩ := Prod.mk.inj (Except.ok.inj hstep)
        exact hd
  rw [Draft.complete]
  cases hns : draft.secretNamespace with
  | none => exact .inl rfl
  | some ns => exact .inr ⟨_, entries, _, hentries, hdraft ns hns⟩

end Config

/-! ### Both ways -/

/-- The namespace of a configuration is one that a user may give, and it is the standard one or stands in a document. -/
def Config.IsFrom (holds : String → Prop) (c : Config) : Prop :=
  Namespace.parse c.secretNamespace.text = .ok c.secretNamespace ∧
    (c.secretNamespace = .standard ∨ holds c.secretNamespace.text)

theorem Namespace.parse_text (ns : Namespace) : parse ns.text = .ok ns := parse_eq_ok_iff.2 rfl

theorem Config.ofJson_documentOf_eq_ok_iff {text : String} {behaviour : ExposureFlags} {failOnUnresolved : Bool}
    {c : Config} :
    ofJson (documentOf text behaviour failOnUnresolved).compact = .ok c ↔
      ∃ ns, Namespace.parse text = .ok ns ∧ c = ⟨ns, behaviour, failOnUnresolved⟩ := by
  rw [ofJson, (takes_readJson text behaviour failOnUnresolved).finish]
  simp only [← Namespace.fit_ofDocumentText_eq_ok_iff]
  cases fit (Namespace.ofDocumentText text) with
  | error fault => simp [Except.map]
  | ok ns => simp [Except.map, eq_comm]

/-- What holds of configurations, and of their parts alone, that are written as documents or read from them. -/
structure SurvivesDocuments : Prop where
  config : ∀ c : Config, Config.ofJson c.document.compact = .ok c
  secretNamespace : ∀ ns : Namespace, Namespace.ofJson (Json.Value.string ns.text).compact = .ok ns
  flags : ∀ flags : ExposureFlags, ExposureFlags.ofJson flags.document.compact = .ok flags
  /-- A text in the place of the namespace is taken if and only if a user may give it. -/
  decided : ∀ text behaviour failOnUnresolved c,
    Config.ofJson (Config.documentOf text behaviour failOnUnresolved).compact = .ok c ↔
      ∃ ns, Namespace.parse text = .ok ns ∧ c = ⟨ns, behaviour, failOnUnresolved⟩
  namespaceOfJson : ∀ doc ns, Namespace.ofJson doc = .ok ns ↔
    ∃ text, Json.finish (Json.readString "a string" doc.toList) = .ok text ∧ Namespace.parse text = .ok ns
  namespaceOfYaml : ∀ doc ns, Namespace.ofYaml doc = .ok ns ↔
    ∃ text, Document.decode doc (fun d => d.text .root (d.root.getD .missing)) = .ok text ∧
      Namespace.parse text = .ok ns
  configOfJson : ∀ doc c, Config.ofJson doc = .ok c → c.IsFrom (Json.HoldsString doc.toList)
  configOfYaml : ∀ doc c, Config.ofYaml doc = .ok c → c.IsFrom (Yaml.HoldsText doc)

/-- **Configurations survive a write and a read**, and no document brings in a namespace that a user may not give. -/
theorem survivesDocuments : SurvivesDocuments where
  config c := Config.ofJson_documentOf_eq_ok_iff.2 ⟨c.secretNamespace, c.secretNamespace.parse_text, rfl⟩
  secretNamespace ns := by
    rw [Namespace.ofJson, (Namespace.takes_readJson ns.text).finish]
    exact Namespace.fit_ofDocumentText_eq_ok_iff.2 ns.parse_text
  flags flags := (ExposureFlags.takes_readJson flags).finish
  decided _ _ _ _ := Config.ofJson_documentOf_eq_ok_iff
  namespaceOfJson _ _ := Namespace.ofJson_eq_ok_iff
  namespaceOfYaml _ _ := Namespace.ofYaml_eq_ok_iff
  configOfJson _ c h := ⟨c.secretNamespace.parse_text, Config.secretNamespace_of_ofJson h⟩
  configOfYaml _ c h := ⟨c.secretNamespace.parse_text, Config.secretNamespace_of_ofYaml h⟩

end SecretRefs
