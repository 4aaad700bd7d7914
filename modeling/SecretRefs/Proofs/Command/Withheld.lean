import SecretRefs.Proofs.Command.Resolve
import SecretRefs.Proofs.Exposure.Trace
import SecretRefs.Proofs.Json.Pretty

/-! What `resolve` prints about secrets that are withheld. Two runs that differ in such secrets alone print the same
properties and the same script. In JSON they print the same if and only if the secrets leave the same traces. -/

namespace SecretRefs

open Json (Value)

namespace Command

variable {ns : Namespace} {secrets others : Secrets} {parameters : Dict String String}

/-! ### Documents -/

theorem isTextual_strings (texts : List String) : (Value.strings texts).IsTextual := by
  refine .array fun v hv => ?_
  obtain ⟨text, -, rfl⟩ := List.mem_map.1 hv
  exact .string text

theorem isTextual_textsDocument (texts : Dict String String) : (textsDocument texts).IsTextual := by
  refine .object fun m hm => ?_
  obtain ⟨e, -, rfl⟩ := List.mem_map.1 hm
  exact .string e.2

theorem isTextual_unresolvedDocument (unresolved : Dict String (List StoreKey)) :
    (unresolvedDocument unresolved).IsTextual := by
  refine .object fun m hm => ?_
  obtain ⟨e, -, rfl⟩ := List.mem_map.1 hm
  exact isTextual_strings _

theorem isTextual_resolutionDocument (plan : ExposurePlan) (unresolved : Dict String (List StoreKey)) :
    (resolutionDocument plan unresolved).IsTextual := by
  refine .object ?_
  simp only [List.forall_mem_cons, List.not_mem_nil, false_implies, implies_true, and_true]
  exact ⟨isTextual_textsDocument _, isTextual_textsDocument _, isTextual_strings _, isTextual_unresolvedDocument _⟩

theorem strings_injective : Function.Injective Value.strings := by
  intro texts texts' h
  exact List.map_injective_iff.2 (fun _ _ => Value.string.inj) (Value.array.inj h)

/-- A document shows the keys by their texts. -/
theorem mapValues_key_eq {unresolved unresolved' : Dict String (List StoreKey)}
    (h : unresolvedDocument unresolved = unresolvedDocument unresolved') :
    (unresolved.mapValues fun _ keys => keys.map StoreKey.key) =
      unresolved'.mapValues fun _ keys => keys.map StoreKey.key := by
  have hmember : Function.Injective fun e : String × List String => (e.1, Value.strings e.2) := by
    rintro ⟨name, texts⟩ ⟨name', texts'⟩ hm
    obtain ⟨rfl, htexts⟩ := Prod.mk.inj hm
    exact Prod.ext rfl (strings_injective htexts)
  apply Dict.ext_entries
  apply List.map_injective_iff.2 hmember
  rw [Dict.mapValues, Dict.mapValues, List.map_map, List.map_map]
  exact Value.object.inj h

theorem unresolved_eq_of_document
    (h : unresolvedDocument (runPass ns secrets parameters.entries).value.unresolved =
      unresolvedDocument (runPass ns others parameters.entries).value.unresolved) :
    (runPass ns secrets parameters.entries).value.unresolved =
      (runPass ns others parameters.entries).value.unresolved := by
  apply Dict.ext_get?
  intro name
  have hkeys := congrArg (fun unresolved => unresolved.get? name) (mapValues_key_eq h)
  rw [Dict.get?_mapValues, Dict.get?_mapValues, get?_unresolved_entries, get?_unresolved_entries] at hkeys
  rw [get?_unresolved_entries, get?_unresolved_entries]
  cases hget : parameters.get? name with
  | none => rw [Option.bind_none, Option.bind_none]
  | some value =>
      rw [hget, Option.bind_some, Option.bind_some] at hkeys
      rw [Option.bind_some, Option.bind_some]
      exact leftover?_key_inj hkeys

/-! ### Two runs -/

section Runs

variable {files files' : Files} {override override' : Option String} {arguments arguments' : List String}

/-- Two runs that differ in secrets for withheld parameters alone. -/
structure ResolveRun.DiffersInWithheld (r : ResolveRun files override arguments)
    (r' : ResolveRun files' override' arguments') : Prop where
  format : r.request.format = r'.request.format
  all : r.request.all = r'.request.all
  config : r.loaded.config = r'.loaded.config
  parameters : r.parameters = r'.parameters
  exposed : AgreeOnExposed r.scope r.flags r.parameters r.secrets r'.secrets

namespace ResolveRun.DiffersInWithheld

variable {r : ResolveRun files override arguments} {r' : ResolveRun files' override' arguments'}

theorem result_eq (h : r.DiffersInWithheld r') :
    r'.result = (runPass r.scope r'.secrets r.parameters.entries).value := by
  rw [ResolveRun.result, ResolveRun.scope, ResolveRun.scope, h.config, h.parameters]

theorem plan_eq (h : r.DiffersInWithheld r') :
    r'.plan = ExposurePlan.ofUpdates r.flags (runPass r.scope r'.secrets r.parameters.entries).value.updates := by
  have hflags : r'.flags = r.flags := by
    rw [ResolveRun.flags, ResolveRun.flags, h.config, h.parameters, h.all]
  rw [ResolveRun.plan, h.result_eq, hflags, ExposurePlan.build]

theorem environment_eq (h : r.DiffersInWithheld r') : r.plan.environment = r'.plan.environment := by
  rw [h.plan_eq]
  exact ExposurePlan.environment_ofUpdates_congr fun name hname => get?_updates_of_exposes h.exposed hname

theorem parameters_eq (h : r.DiffersInWithheld r') : r.plan.parameters = r'.plan.parameters := by
  rw [h.plan_eq]
  exact ExposurePlan.parameters_ofUpdates_congr fun name hname => get?_updates_of_exposes h.exposed hname

theorem sameTraces_iff (h : r.DiffersInWithheld r') :
    SameTraces r.scope r.flags r.parameters r.secrets r'.secrets ↔
      r.plan.withheld = r'.plan.withheld ∧ r.result.unresolved = r'.result.unresolved := by
  rw [h.plan_eq, h.result_eq]
  exact SecretRefs.sameTraces_iff h.exposed

/-- JSON shows the traces in the list of the withheld parameters and in that of the leftover references. -/
theorem document_eq_iff (h : r.DiffersInWithheld r') :
    resolutionDocument r.plan r.result.unresolved = resolutionDocument r'.plan r'.result.unresolved ↔
      SameTraces r.scope r.flags r.parameters r.secrets r'.secrets := by
  rw [h.sameTraces_iff]
  constructor
  · intro hdocument
    simp only [resolutionDocument, Value.object.injEq, List.cons.injEq, Prod.mk.injEq, true_and, and_true] at hdocument
    obtain ⟨-, -, hwithheld, hunresolved⟩ := hdocument
    constructor
    · apply KeySet.ext_members
      intro name
      rw [strings_injective hwithheld]
    · rw [h.result_eq] at hunresolved ⊢
      exact unresolved_eq_of_document hunresolved
  · rintro ⟨hwithheld, hunresolved⟩
    rw [resolutionDocument, resolutionDocument, h.environment_eq, h.parameters_eq, hwithheld, hunresolved]

/-- Without a difference in the traces there is none in what a format prints; formats other than JSON show what is
exposed and nothing else. -/
theorem lines_eq (h : r.DiffersInWithheld r')
    (htraces : r.request.format = .json → SameTraces r.scope r.flags r.parameters r.secrets r'.secrets) :
    r.lines = r'.lines := by
  rw [ResolveRun.lines, ResolveRun.lines, ← h.format]
  cases hformat : r.request.format with
  | properties =>
      rw [OutputFormat.lines, OutputFormat.lines, propertyLines, propertyLines, h.environment_eq, h.parameters_eq]
  | json => rw [OutputFormat.lines, OutputFormat.lines, h.document_eq_iff.2 (htraces hformat)]
  | env => rw [OutputFormat.lines, OutputFormat.lines, exportLines, exportLines, h.environment_eq]

theorem document_eq_of_output (h : r.DiffersInWithheld r') (hformat : r.request.format = .json)
    (houtput : Outcome.textOf r.lines = Outcome.textOf r'.lines) :
    resolutionDocument r.plan r.result.unresolved = resolutionDocument r'.plan r'.result.unresolved := by
  have hpretty : (resolutionDocument r.plan r.result.unresolved).pretty =
      (resolutionDocument r'.plan r'.result.unresolved).pretty := by
    rw [ResolveRun.lines, ResolveRun.lines, ← h.format, hformat, OutputFormat.lines, OutputFormat.lines] at houtput
    exact textOf_singleton_inj houtput
  exact (isTextual_resolutionDocument _ _).pretty_inj (isTextual_resolutionDocument _ _) hpretty

end ResolveRun.DiffersInWithheld

variable {r : ResolveRun files override arguments} {r' : ResolveRun files' override' arguments'}

/-- **Secrets of withheld parameters are not seen on standard output**, but for the traces that JSON shows. -/
theorem ResolveRun.output_eq_iff (h : r.DiffersInWithheld r') :
    (run files override arguments).output = (run files' override' arguments').output ↔
      (r.request.format = .json → SameTraces r.scope r.flags r.parameters r.secrets r'.secrets) := by
  rw [r.output_eq, r'.output_eq]
  constructor
  · intro houtput hformat
    exact h.document_eq_iff.1 (h.document_eq_of_output hformat houtput)
  · intro htraces
    rw [h.lines_eq htraces]

/-- The secret of `env.A` is withheld, and a percent sign in it is not seen. -/
theorem output_eq_of_percent :
    (ResolveRun.onTwoFiles "env.A=%vault:a%\nport=%vault:b%\nvaultref.set.config=true" "a=x\nb=80" .json).DiffersInWithheld
        (ResolveRun.onTwoFiles "env.A=%vault:a%\nport=%vault:b%\nvaultref.set.config=true" "a=100%\nb=80" .json) ∧
      outputOnTwoFiles "env.A=%vault:a%\nport=%vault:b%\nvaultref.set.config=true" "a=x\nb=80" .json =
        outputOnTwoFiles "env.A=%vault:a%\nport=%vault:b%\nvaultref.set.config=true" "a=100%\nb=80" .json := by
  refine ⟨?differs, (ResolveRun.output_eq_iff ?differs).2 fun _ => by decide +kernel⟩
  exact ⟨rfl, rfl, rfl, rfl, by decide +kernel⟩

/-- A withheld secret that holds a reference shows it among the leftover references. -/
theorem output_ne_of_reference :
    (ResolveRun.onTwoFiles "env.A=%vault:a%" "a=x" .json).DiffersInWithheld
        (ResolveRun.onTwoFiles "env.A=%vault:a%" "a=%vault:leak%" .json) ∧
      (ResolveRun.onTwoFiles "env.A=%vault:a%" "a=x" .json).secrets.keys =
        (ResolveRun.onTwoFiles "env.A=%vault:a%" "a=%vault:leak%" .json).secrets.keys ∧
      outputOnTwoFiles "env.A=%vault:a%" "a=x" .json ≠ outputOnTwoFiles "env.A=%vault:a%" "a=%vault:leak%" .json :=
  ⟨⟨rfl, rfl, rfl, rfl, by decide +kernel⟩, by decide +kernel, by decide +kernel⟩

/-- Secrets without a percent sign are not seen at all. -/
theorem ResolveRun.output_eq_of_percentFree (h : r.DiffersInWithheld r') (hnames : r.secrets.keys = r'.secrets.keys)
    (hfree : r.secrets.PercentFree) (hfree' : r'.secrets.PercentFree) :
    (run files override arguments).output = (run files' override' arguments').output := by
  rw [r.output_eq, r'.output_eq, h.lines_eq]
  intro _ p _ _
  exact trace_eq_of_percentFree hnames hfree hfree' r.scope p.2

end Runs

end Command

end SecretRefs
