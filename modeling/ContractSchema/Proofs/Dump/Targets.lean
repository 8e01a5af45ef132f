import ContractSchema.Dump
import ContractSchema.Proofs.FileTree

/-!
# What a dump is to make

The files of a dump are known before anything is made: one for each schema and each
document, in a fixed order (`ContractSchema.dumpTargets`). The steps of the dump create
these files and no others (`ContractSchema.filterMap_target?_dumpSteps`).

The names of the files are different from each other, whatever keys the contract has. A
name that belongs to an entrypoint begins with its number, and the first dash ends it
(`ContractSchema.schemaFileName_inj`); the other names begin with letters. Only among the
documents of forms can there be the same name twice: when there is a form under the key
`init`, for its document has the name of the one of the init function
(`ContractSchema.nodup_dumpTargets_iff`).
-/

namespace ContractSchema

/-! ### Targets -/

/-- **A file a dump is to make.** -/
structure DumpTarget where
  /-- The name of the file. -/
  name : String
  /-- The text of the file, or why there is none. -/
  text : Except SchemaError String

namespace DumpTarget

/-- There is a text for the file. -/
def Readable (target : DumpTarget) : Prop :=
  ∃ text, target.text = .ok text

/-- The file that is made, with its name; it is empty if there is no text. -/
def file (target : DumpTarget) : String × String :=
  (target.name, target.text.toOption.getD "")

end DumpTarget

/-- The file of a schema. -/
def schemaTarget (name : String) (blob : SchemaBlob) : DumpTarget :=
  ⟨name, schemaFileText blob⟩

/-- The file of a schema that stands alone, if there is the schema. -/
def singleTargets (name : String) (blob : Option SchemaBlob) : List DumpTarget :=
  (blob.map (schemaTarget name)).toList

/-- The files of the entrypoint with the given number, one for each of its schemas. -/
def entrypointTargets (number : Nat) (entry : Entrypoint) : List DumpTarget :=
  entry.method.schemas.map fun (kind, blob) =>
    schemaTarget (schemaFileName number entry.key kind) blob

/-- The files of entrypoints, of which the first has the given number. -/
def numberedTargets (number : Nat) (entries : List Entrypoint) : List DumpTarget :=
  (entries.zipIdx number).flatMap fun (entry, number) => entrypointTargets number entry

/-- The files of the documents of forms. -/
def documentTargets (forms : ContractForms) : List DumpTarget :=
  forms.documents.map fun (name, document) =>
    ⟨documentFileName name, .ok document.json.pretty⟩

/-- **The files of a dump** in their order: for what the init function takes, for the
entrypoints by their numbers, for events, and for the documents of forms. -/
def dumpTargets (bindings : ContractBindings) (forms : Option ContractForms) : List DumpTarget :=
  singleTargets "init.request.yaml" bindings.init.request ++
    (numberedTargets 1 bindings.entries ++
      (singleTargets "events.yaml" bindings.events ++ forms.toList.flatMap documentTargets))

/-- **The file of a schema** has a text if and only if the blob is that of a type. -/
theorem readable_schemaTarget_iff {name : String} {blob : SchemaBlob} :
    (schemaTarget name blob).Readable ↔ ∃ type, blob.parse = .ok type := by
  rw [DumpTarget.Readable, schemaTarget, schemaFileText, SchemaBlob.document]
  rcases blob.parse with error | type
  · constructor
    · rintro ⟨text, h⟩
      cases h
    · rintro ⟨type, h⟩
      cases h
  · exact ⟨fun _ => ⟨type, rfl⟩, fun _ => ⟨_, rfl⟩⟩

/-- The text of the file of a schema shows the blob and its type. -/
theorem file_schemaTarget {name : String} {blob : SchemaBlob} {type : SchemaType}
    (h : blob.parse = .ok type) :
    (schemaTarget name blob).file = (name, (blob.documentWith type).yaml) := by
  rw [DumpTarget.file, schemaTarget, schemaFileText, SchemaBlob.document, h]
  rfl

/-- The file a step makes. -/
def DumpStep.target? : DumpStep → Option DumpTarget
  | .report _ => none
  | .create name text => some ⟨name, text⟩

theorem filterMap_target?_report (text : String) (steps : List DumpStep) :
    (.report text :: steps).filterMap DumpStep.target? = steps.filterMap DumpStep.target? := rfl

theorem filterMap_target?_create {α : Type} (items : List α) (f : α → DumpTarget) :
    (items.map fun item => DumpStep.create (f item).name (f item).text).filterMap
      DumpStep.target? = items.map f := by
  induction items with
  | nil => rfl
  | cons item items ih => exact congrArg (f item :: ·) ih

theorem filterMap_target?_singleSteps (name : String) (blob : Option SchemaBlob) :
    (singleSteps name blob).filterMap DumpStep.target? = singleTargets name blob := by
  cases blob with
  | none => rfl
  | some blob => rfl

theorem filterMap_target?_entrypointSteps (number count : Nat) (entries : List Entrypoint) :
    (entrypointSteps number count entries).filterMap DumpStep.target? =
      numberedTargets number entries := by
  induction entries generalizing number count with
  | nil => rfl
  | cons entry entries ih =>
    have hfirst := filterMap_target?_create entry.method.schemas fun (kind, blob) =>
      schemaTarget (schemaFileName number entry.key kind) blob
    rw [entrypointSteps, List.filterMap_append, filterMap_target?_report, ih]
    exact congrArg (· ++ numberedTargets (number + 1) entries) hfirst

theorem filterMap_target?_documentSteps (forms : Option ContractForms) :
    (documentSteps forms).filterMap DumpStep.target? = forms.toList.flatMap documentTargets := by
  cases forms with
  | none => rfl
  | some forms =>
    have hdocuments := filterMap_target?_create forms.documents fun (name, document) =>
      ⟨documentFileName name, .ok document.json.pretty⟩
    rw [documentSteps, List.cons_append, filterMap_target?_report, List.filterMap_append,
      filterMap_target?_report, List.filterMap_nil, List.append_nil, Option.toList_some,
      List.flatMap_singleton]
    exact hdocuments

/-- **The steps of a dump make its files.** -/
theorem filterMap_target?_dumpSteps (bindings : ContractBindings) (forms : Option ContractForms) :
    (dumpSteps bindings forms).filterMap DumpStep.target? = dumpTargets bindings forms := by
  simp only [dumpSteps, dumpTargets, List.cons_append, List.append_assoc, List.filterMap_append,
    filterMap_target?_report, filterMap_target?_singleSteps, filterMap_target?_entrypointSteps,
    filterMap_target?_documentSteps]

/-! ### Names with numbers -/

theorem toList_twoDigits (n : Nat) :
    (twoDigits n).toList = (if n < 10 then ['0'] else []) ++ Nat.toDigits 10 n := by
  rw [twoDigits, Nat.toString_eq_repr]
  split <;> simp

/-- A number with two digits or more is written in digits. -/
theorem isDigit_of_mem_twoDigits {n : Nat} {c : Char} (h : c ∈ (twoDigits n).toList) :
    c.isDigit = true := by
  rw [toList_twoDigits] at h
  rcases List.mem_append.mp h with hzero | hdigit
  · obtain ⟨-, hzero⟩ : n < 10 ∧ c = '0' := by simpa using hzero
    rw [hzero]
    rfl
  · exact Nat.isDigit_of_mem_toDigits (by decide) (by decide) hdigit

theorem ofDigitChars_twoDigits (n : Nat) : Nat.ofDigitChars 10 (twoDigits n).toList 0 = n := by
  have hvalue : Nat.ofDigitChars 10 (Nat.toDigits 10 n) 0 = n := Nat.ofDigitChars_ten_toDigits
  rw [toList_twoDigits]
  split
  · exact hvalue
  · exact hvalue

/-- The first dash ends the number at the beginning of a name. -/
theorem twoDigits_dash_inj {n m : Nat} {rest rest' : List Char}
    (h : (twoDigits n).toList ++ '-' :: rest = (twoDigits m).toList ++ '-' :: rest') :
    n = m ∧ rest = rest' := by
  have hnumber : ∀ (n : Nat) (rest : List Char),
      ((twoDigits n).toList ++ '-' :: rest).takeWhile Char.isDigit = (twoDigits n).toList := by
    intro n rest
    rw [List.takeWhile_append_of_pos fun c hc => isDigit_of_mem_twoDigits hc]
    simp [Char.isDigit]
  have hdigits : (twoDigits n).toList = (twoDigits m).toList := by
    rw [← hnumber n rest, h, hnumber]
  have hn : n = m := by
    rw [← ofDigitChars_twoDigits n, hdigits, ofDigitChars_twoDigits]
  subst hn
  exact ⟨rfl, (List.cons.inj (List.append_cancel_left h)).2⟩

theorem toList_schemaFileName (number : Nat) (key : String) (kind : SchemaKind) :
    (schemaFileName number key kind).toList =
      (twoDigits number).toList ++ '-' :: (key ++ "." ++ kind.text ++ ".yaml").toList := by
  simp [schemaFileName, String.toList_append]

theorem SchemaKind.text_inj {kind kind' : SchemaKind} (h : kind.text = kind'.text) :
    kind = kind' := by
  revert h
  cases kind <;> cases kind' <;> decide

/-- **The name of the file of a schema** tells the number of its entrypoint, and next to it
what the schema describes. -/
theorem schemaFileName_inj {number number' : Nat} {key key' : String} {kind kind' : SchemaKind}
    (h : schemaFileName number key kind = schemaFileName number' key' kind') :
    number = number' ∧ (key = key' → kind = kind') := by
  have hlist := congrArg String.toList h
  rw [toList_schemaFileName, toList_schemaFileName] at hlist
  obtain ⟨hnumber, hrest⟩ := twoDigits_dash_inj hlist
  refine ⟨hnumber, ?_⟩
  rintro rfl
  have htext : kind.text.toList = kind'.text.toList := by
    simpa [String.toList_append] using hrest
  exact SchemaKind.text_inj (String.toList_inj.mp htext)

/-- Names of files that belong to entrypoints begin with digits. -/
theorem head?_schemaFileName (number : Nat) (key : String) (kind : SchemaKind) :
    ∃ c, (schemaFileName number key kind).toList.head? = some c ∧ c.isDigit = true := by
  have hne : (twoDigits number).toList ≠ [] := by
    rw [toList_twoDigits]
    simp
  refine ⟨(twoDigits number).toList.head hne, ?_, isDigit_of_mem_twoDigits (List.head_mem hne)⟩
  rw [toList_schemaFileName, List.head?_append_of_ne_nil _ hne, List.head?_eq_some_head]

theorem nodup_kinds (method : ReceiveMethod) : (method.schemas.map (·.1)).Nodup := by
  have hfilter : method.schemas.map (·.1) =
      SchemaKind.all.filter fun kind => (method.schema? kind).isSome := by
    rw [ReceiveMethod.schemas]
    induction SchemaKind.all with
    | nil => rfl
    | cons kind kinds ih =>
      rw [List.filter_cons, ← ih]
      rcases hkind : method.schema? kind with _ | blob <;> simp [hkind]
  rw [hfilter]
  exact List.Nodup.filter _ (by decide)

/-! ### Different names -/

theorem mem_entrypointTargets {number : Nat} {entry : Entrypoint} {target : DumpTarget}
    (h : target ∈ entrypointTargets number entry) :
    ∃ kind, target.name = schemaFileName number entry.key kind := by
  obtain ⟨⟨kind, blob⟩, -, rfl⟩ := List.mem_map.mp h
  exact ⟨kind, rfl⟩

theorem nodup_entrypointTargets (number : Nat) (entry : Entrypoint) :
    ((entrypointTargets number entry).map (·.name)).Nodup := by
  have hnames : (entrypointTargets number entry).map (·.name) =
      (entry.method.schemas.map (·.1)).map (schemaFileName number entry.key) := by
    rw [entrypointTargets, List.map_map, List.map_map]
    rfl
  rw [hnames]
  refine (nodup_kinds entry.method).map fun kind kind' h => ?_
  exact (schemaFileName_inj h).2 rfl

/-- The number of an entrypoint tells its files from those of all others. -/
theorem nodup_numberedTargets (number : Nat) (entries : List Entrypoint) :
    ((numberedTargets number entries).map (·.name)).Nodup := by
  induction entries generalizing number with
  | nil => exact List.nodup_nil
  | cons entry entries ih =>
    rw [numberedTargets, List.zipIdx_cons, List.flatMap_cons, List.map_append]
    refine List.nodup_append.mpr ⟨nodup_entrypointTargets number entry, ih (number + 1), ?_⟩
    intro name hname name' hname' heq
    obtain ⟨target, htarget, rfl⟩ := List.mem_map.mp hname
    obtain ⟨target', htarget', rfl⟩ := List.mem_map.mp hname'
    obtain ⟨⟨entry', number'⟩, hentry', htarget'⟩ := List.mem_flatMap.mp htarget'
    obtain ⟨kind, hkind⟩ := mem_entrypointTargets htarget
    obtain ⟨kind', hkind'⟩ := mem_entrypointTargets htarget'
    rw [hkind, hkind'] at heq
    have hnumber : number = number' := (schemaFileName_inj heq).1
    have hle : number + 1 ≤ number' := (List.mem_zipIdx hentry').1
    omega

/-! ### Names of documents -/

theorem append_cancel_right {text text' ending : String} (h : text ++ ending = text' ++ ending) :
    text = text' := by
  have hlist := congrArg String.toList h
  rw [String.toList_append, String.toList_append] at hlist
  exact String.toList_inj.mp (List.append_cancel_right hlist)

/-- The names of the documents of a form. -/
theorem mem_documentsOf_iff {key : String} {form : EntrypointForm} {name : String} :
    name ∈ (ContractForms.documentsOf key form).map (·.1) ↔
      form.requestDocument.isSome ∧ name = key ++ ".request" ∨
        form.responseDocument.isSome ∧ name = key ++ ".response" := by
  rw [ContractForms.documentsOf]
  rcases form.requestDocument with _ | request <;>
    rcases form.responseDocument with _ | response <;> simp

theorem append_request_ne_append_response (key key' : String) :
    key ++ ".request" ≠ key' ++ ".response" := by
  intro h
  have hlast := congrArg (fun name => name.toList.getLast?) h
  simp [String.toList_append] at hlast

theorem nodup_documentsOf (key : String) (form : EntrypointForm) :
    ((ContractForms.documentsOf key form).map (·.1)).Nodup := by
  have hne := append_request_ne_append_response key key
  rw [ContractForms.documentsOf]
  rcases form.requestDocument with _ | request <;>
    rcases form.responseDocument with _ | response <;> simp [hne]

/-- Names of documents tell the keys of their forms. -/
theorem key_of_mem_documentsOf {key key' : String} {form form' : EntrypointForm} {name : String}
    (h : name ∈ (ContractForms.documentsOf key form).map (·.1))
    (h' : name ∈ (ContractForms.documentsOf key' form').map (·.1)) : key = key' := by
  rcases mem_documentsOf_iff.mp h with ⟨-, rfl⟩ | ⟨-, rfl⟩ <;>
    rcases mem_documentsOf_iff.mp h' with ⟨-, heq⟩ | ⟨-, heq⟩
  · exact append_cancel_right heq
  · exact absurd heq (append_request_ne_append_response key key')
  · exact absurd heq.symm (append_request_ne_append_response key' key)
  · exact append_cancel_right heq

theorem nodup_documents_of_forms {entrypoints : List (String × EntrypointForm)}
    (distinct : (entrypoints.map (·.1)).Nodup) :
    ((entrypoints.flatMap fun (key, form) =>
      ContractForms.documentsOf key form).map (·.1)).Nodup := by
  induction entrypoints with
  | nil => exact List.nodup_nil
  | cons entry entrypoints ih =>
    obtain ⟨hnotin, hdistinct⟩ := List.nodup_cons.mp distinct
    rw [List.flatMap_cons, List.map_append]
    refine List.nodup_append.mpr ⟨nodup_documentsOf entry.1 entry.2, ih hdistinct, ?_⟩
    rintro name hname name' hname' rfl
    rw [List.map_flatMap] at hname'
    obtain ⟨other, hother, hname'⟩ := List.mem_flatMap.mp hname'
    have hkey := key_of_mem_documentsOf hname hname'
    exact hnotin (List.mem_map.mpr ⟨other, hother, hkey.symm⟩)

/-- There is a form under the key `init` which has a document of what is taken. -/
def ContractForms.HasInitRequest (forms : ContractForms) : Prop :=
  ∃ form, ("init", form) ∈ forms.entrypoints ∧ form.requestDocument.isSome

/-- **Documents of forms have different names**, unless one of the forms has the key `init`
and a document of what is taken. -/
theorem nodup_documents_iff {forms : ContractForms}
    (distinct : (forms.entrypoints.map (·.1)).Nodup) :
    (forms.documents.map (·.1)).Nodup ↔ ¬forms.HasInitRequest := by
  rw [ContractForms.documents, List.map_cons, List.nodup_cons,
    and_iff_left (nodup_documents_of_forms distinct), not_iff_not, List.map_flatMap,
    List.mem_flatMap]
  constructor
  · rintro ⟨⟨key, form⟩, hform, hname⟩
    rcases mem_documentsOf_iff.mp hname with ⟨hrequest, heq⟩ | ⟨-, heq⟩
    · have hinit : "init" ++ ".request" = key ++ ".request" := heq
      exact ⟨form, append_cancel_right hinit ▸ hform, hrequest⟩
    · exact absurd heq (append_request_ne_append_response "init" key)
  · rintro ⟨form, hform, hrequest⟩
    exact ⟨_, hform, mem_documentsOf_iff.mpr (Or.inl ⟨hrequest, rfl⟩)⟩

theorem documentFileName_inj {name name' : String}
    (h : documentFileName name = documentFileName name') : name = name' := by
  have hlist := congrArg String.toList h
  simp only [documentFileName, String.toList_append] at hlist
  exact String.toList_inj.mp (List.append_cancel_left (List.append_cancel_right hlist))

theorem nodup_documentTargets_iff {forms : ContractForms} :
    ((documentTargets forms).map (·.name)).Nodup ↔ (forms.documents.map (·.1)).Nodup := by
  have hnames : (documentTargets forms).map (·.name) =
      (forms.documents.map (·.1)).map documentFileName := by
    rw [documentTargets, List.map_map, List.map_map]
    rfl
  rw [hnames, List.nodup_map_iff fun _ _ => documentFileName_inj]

theorem nodup_targets_of_forms_iff {forms : Option ContractForms}
    (distinct : ∀ f ∈ forms, (f.entrypoints.map (·.1)).Nodup) :
    ((forms.toList.flatMap documentTargets).map (·.name)).Nodup ↔
      ∀ f ∈ forms, ¬f.HasInitRequest := by
  cases forms with
  | none => simp
  | some forms =>
    rw [Option.toList_some, List.flatMap_singleton, nodup_documentTargets_iff,
      nodup_documents_iff (distinct forms rfl)]
    simp

/-! ### All names -/

/-- All names begin with characters of a sort. -/
def Begin (p : Char → Prop) (targets : List DumpTarget) : Prop :=
  ∀ target ∈ targets, ∃ c, target.name.toList.head? = some c ∧ p c

theorem Begin.imp {p q : Char → Prop} {targets : List DumpTarget} (h : Begin p targets)
    (himp : ∀ c, p c → q c) : Begin q targets := by
  intro target htarget
  obtain ⟨c, hc, hp⟩ := h target htarget
  exact ⟨c, hc, himp c hp⟩

theorem Begin.append {p : Char → Prop} {targets targets' : List DumpTarget}
    (h : Begin p targets) (h' : Begin p targets') : Begin p (targets ++ targets') :=
  List.forall_mem_append.mpr ⟨h, h'⟩

/-- Names which begin differently are different. -/
theorem nodup_append_iff_of_begin {p : Char → Prop} {targets targets' : List DumpTarget}
    (h : Begin p targets) (h' : Begin (fun c => ¬p c) targets') :
    ((targets ++ targets').map (·.name)).Nodup ↔
      (targets.map (·.name)).Nodup ∧ (targets'.map (·.name)).Nodup := by
  rw [List.map_append, List.nodup_append, ← and_assoc]
  refine and_iff_left ?_
  rintro name hname _ hname' rfl
  obtain ⟨target, htarget, rfl⟩ := List.mem_map.mp hname
  obtain ⟨target', htarget', heq⟩ := List.mem_map.mp hname'
  obtain ⟨c, hc, hp⟩ := h target htarget
  obtain ⟨c', hc', hnp⟩ := h' target' htarget'
  rw [heq, hc] at hc'
  exact hnp (Option.some.inj hc' ▸ hp)

theorem begin_singleTargets {name : String} {c : Char} (h : name.toList.head? = some c)
    (blob : Option SchemaBlob) : Begin (· = c) (singleTargets name blob) := by
  intro target htarget
  rw [singleTargets, Option.mem_toList, Option.map_eq_some_iff] at htarget
  obtain ⟨blob, -, rfl⟩ := htarget
  exact ⟨c, h, rfl⟩

theorem nodup_singleTargets (name : String) (blob : Option SchemaBlob) :
    ((singleTargets name blob).map (·.name)).Nodup := by
  cases blob with
  | none => exact List.nodup_nil
  | some blob => exact List.nodup_singleton _

theorem begin_numberedTargets (number : Nat) (entries : List Entrypoint) :
    Begin (·.isDigit = true) (numberedTargets number entries) := by
  intro target htarget
  obtain ⟨⟨entry, number⟩, -, htarget⟩ := List.mem_flatMap.mp htarget
  obtain ⟨kind, hkind⟩ := mem_entrypointTargets htarget
  rw [hkind]
  exact head?_schemaFileName number entry.key kind

theorem begin_targets_of_forms (forms : Option ContractForms) :
    Begin (· = 'u') (forms.toList.flatMap documentTargets) := by
  intro target htarget
  obtain ⟨f, -, htarget⟩ := List.mem_flatMap.mp htarget
  obtain ⟨⟨name, document⟩, -, rfl⟩ := List.mem_map.mp htarget
  refine ⟨'u', ?_, rfl⟩
  simp [documentFileName, String.toList_append]

/-- **The files of a dump have different names**, unless one of the forms has the key `init`
and a document of what is taken. -/
theorem nodup_dumpTargets_iff {bindings : ContractBindings} {forms : Option ContractForms}
    (distinct : ∀ f ∈ forms, (f.entrypoints.map (·.1)).Nodup) :
    ((dumpTargets bindings forms).map (·.name)).Nodup ↔ ∀ f ∈ forms, ¬f.HasInitRequest := by
  have hinit : Begin (· = 'i') (singleTargets "init.request.yaml" bindings.init.request) :=
    begin_singleTargets rfl _
  have hnumbers := begin_numberedTargets 1 bindings.entries
  have hevents : Begin (· = 'e') (singleTargets "events.yaml" bindings.events) :=
    begin_singleTargets rfl _
  have hforms := begin_targets_of_forms forms
  -- letters come behind digits, and no two letters are the same
  have hlast : Begin (fun c => c ≠ 'e') (forms.toList.flatMap documentTargets) :=
    hforms.imp (by rintro c rfl; decide)
  have hletters : Begin (fun c => ¬c.isDigit = true)
      (singleTargets "events.yaml" bindings.events ++ forms.toList.flatMap documentTargets) :=
    (hevents.imp (by rintro c rfl; decide)).append (hforms.imp (by rintro c rfl; decide))
  have hothers : Begin (fun c => c ≠ 'i') (numberedTargets 1 bindings.entries ++
      (singleTargets "events.yaml" bindings.events ++ forms.toList.flatMap documentTargets)) := by
    refine (hnumbers.imp ?_).append
      ((hevents.imp (by rintro c rfl; decide)).append (hforms.imp (by rintro c rfl; decide)))
    rintro c hdigit rfl
    exact absurd hdigit (by decide)
  rw [dumpTargets, nodup_append_iff_of_begin hinit hothers,
    nodup_append_iff_of_begin hnumbers hletters, nodup_append_iff_of_begin hevents hlast,
    and_iff_right (nodup_singleTargets _ _), and_iff_right (nodup_numberedTargets _ _),
    and_iff_right (nodup_singleTargets _ _), nodup_targets_of_forms_iff distinct]

/-! ### Names of files -/

/-- **A text that can be a part of a name of a file.** -/
def IsNamePart (text : String) : Prop :=
  '/' ∉ text.toList ∧ '\x00' ∉ text.toList

instance (text : String) : Decidable (IsNamePart text) :=
  inferInstanceAs (Decidable (_ ∧ _))

theorem IsNamePart.append {text text' : String} (h : IsNamePart text) (h' : IsNamePart text') :
    IsNamePart (text ++ text') := by
  obtain ⟨hslash, hnul⟩ := h
  obtain ⟨hslash', hnul'⟩ := h'
  rw [IsNamePart, String.toList_append, List.mem_append, List.mem_append]
  exact ⟨not_or.mpr ⟨hslash, hslash'⟩, not_or.mpr ⟨hnul, hnul'⟩⟩

/-- Dots alone are too short to be a name with an ending. -/
theorem IsNamePart.isFileName {text ending : String} (h : IsNamePart (text ++ ending))
    (hlong : 3 ≤ ending.length) (hshort : (text ++ ending).utf8ByteSize ≤ FileTree.maxNameLength) :
    IsFileName (text ++ ending) := by
  have hlength : 3 ≤ (text ++ ending).length := by
    rw [String.length_append]
    omega
  refine ⟨h.1, h.2, hshort, ?_, ?_, ?_⟩ <;> intro heq <;> rw [heq] at hlength <;>
    exact absurd hlength (by decide)

theorem isNamePart_twoDigits (n : Nat) : IsNamePart (twoDigits n) := by
  constructor
  · intro h
    exact absurd (isDigit_of_mem_twoDigits h) (by decide)
  · intro h
    exact absurd (isDigit_of_mem_twoDigits h) (by decide)

theorem isNamePart_kind (kind : SchemaKind) : IsNamePart kind.text := by
  cases kind <;> exact ⟨by decide, by decide⟩

/-- **The keys of a contract and of its forms can be parts of names of files**, and the names
made of them are not too long. -/
structure UsableKeys (bindings : ContractBindings) (forms : Option ContractForms) : Prop where
  /-- The keys of entrypoints are usable. -/
  ofEntrypoints : ∀ entry ∈ bindings.entries, IsNamePart entry.key
  /-- The keys of forms are usable. -/
  ofForms : ∀ f ∈ forms, ∀ entry ∈ f.entrypoints, IsNamePart entry.1
  /-- All names are short enough. -/
  short : ∀ target ∈ dumpTargets bindings forms,
    target.name.utf8ByteSize ≤ FileTree.maxNameLength

theorem isNamePart_document {forms : ContractForms}
    (h : ∀ entry ∈ forms.entrypoints, IsNamePart entry.1) {name : String}
    (hname : name ∈ forms.documents.map (·.1)) : IsNamePart name := by
  rw [ContractForms.documents, List.map_cons, List.mem_cons, List.map_flatMap,
    List.mem_flatMap] at hname
  rcases hname with rfl | ⟨⟨key, form⟩, hform, hname⟩
  · have hinit : IsNamePart "init.request" := ⟨by decide, by decide⟩
    exact hinit
  · have hkey : IsNamePart key := h _ hform
    rcases mem_documentsOf_iff.mp hname with ⟨-, rfl⟩ | ⟨-, rfl⟩
    · exact hkey.append ⟨by decide, by decide⟩
    · exact hkey.append ⟨by decide, by decide⟩

/-- **Usable keys make names of files.** -/
theorem UsableKeys.isFileName {bindings : ContractBindings} {forms : Option ContractForms}
    (h : UsableKeys bindings forms) :
    ∀ target ∈ dumpTargets bindings forms, IsFileName target.name := by
  intro target htarget
  have hshort := h.short target htarget
  rw [dumpTargets, List.mem_append, List.mem_append, List.mem_append] at htarget
  rcases htarget with hinit | hnumber | hevents | hform
  · obtain ⟨blob, -, rfl⟩ := Option.map_eq_some_iff.mp (Option.mem_toList.mp hinit)
    have hname : IsFileName "init.request.yaml" := ⟨by decide, by decide, by decide, by decide⟩
    exact hname
  · obtain ⟨⟨entry, number⟩, hentry, htarget⟩ := List.mem_flatMap.mp hnumber
    obtain ⟨kind, hkind⟩ := mem_entrypointTargets htarget
    rw [hkind] at hshort ⊢
    have hkey := h.ofEntrypoints entry (List.fst_mem_of_mem_zipIdx hentry)
    refine IsNamePart.isFileName ?_ (by decide) hshort
    exact (((((isNamePart_twoDigits number).append ⟨by decide, by decide⟩).append hkey).append
      ⟨by decide, by decide⟩).append (isNamePart_kind kind)).append ⟨by decide, by decide⟩
  · obtain ⟨blob, -, rfl⟩ := Option.map_eq_some_iff.mp (Option.mem_toList.mp hevents)
    have hname : IsFileName "events.yaml" := ⟨by decide, by decide, by decide, by decide⟩
    exact hname
  · obtain ⟨f, hf, htarget⟩ := List.mem_flatMap.mp hform
    obtain ⟨⟨name, document⟩, hdocument, rfl⟩ := List.mem_map.mp htarget
    have hname : IsNamePart name := isNamePart_document (h.ofForms f (Option.mem_toList.mp hf))
      (List.mem_map.mpr ⟨_, hdocument, rfl⟩)
    refine IsNamePart.isFileName ?_ (by decide) hshort
    exact (IsNamePart.append ⟨by decide, by decide⟩ hname).append ⟨by decide, by decide⟩

end ContractSchema
