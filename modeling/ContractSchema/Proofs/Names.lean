import ContractSchema.Contract
import Mathlib.Data.List.TakeWhile

/-!
# Names on chain

The chain knows functions by a single text. For an entrypoint this is the name of the contract
and the name of the entrypoint with a dot between them. The first dot is this one, since the
name of a contract has none, so cutting there gives both names back
(`ContractSchema.ReceiveMethod.cutAtDot?_receiveName`), even if the name of the entrypoint is
empty or has dots of its own. The name of an init function has no dot at all
(`ContractSchema.ContractName.cutAtDot?_initName`), and so the two sorts of names do not meet
(`ContractSchema.names_on_chain_unambiguous`).
-/

namespace ContractSchema

/-! ### Cutting at a dot -/

/-- The texts before and behind the first dot, if there is a dot. -/
def cutAtDot? (text : String) : Option (String × String) :=
  match text.toList.dropWhile (· ≠ '.') with
  | [] => none
  | _ :: behind => some (String.ofList (text.toList.takeWhile (· ≠ '.')), String.ofList behind)

theorem toList_dotted (before behind : String) :
    (before ++ "." ++ behind).toList = before.toList ++ '.' :: behind.toList := by
  rw [String.toList_append, String.toList_append, List.append_assoc]
  rfl

theorem cutAtDot?_append {before : String} (h : '.' ∉ before.toList) (behind : String) :
    cutAtDot? (before ++ "." ++ behind) = some (before, behind) := by
  have hkept : ∀ c ∈ before.toList, decide (c ≠ '.') = true := fun c hc =>
    decide_eq_true fun hdot => h (hdot ▸ hc)
  have hdrop : (before.toList ++ '.' :: behind.toList).dropWhile (· ≠ '.') =
      '.' :: behind.toList := by
    rw [List.dropWhile_append_of_pos hkept]
    exact List.dropWhile_cons_of_neg (by simp)
  have htake : (before.toList ++ '.' :: behind.toList).takeWhile (· ≠ '.') = before.toList := by
    rw [List.takeWhile_append_of_pos hkept, List.takeWhile_cons_of_neg (by simp),
      List.append_nil]
  rw [cutAtDot?, toList_dotted, hdrop, htake]
  simp only [String.ofList_toList]

theorem cutAtDot?_eq_none {text : String} (h : '.' ∉ text.toList) : cutAtDot? text = none := by
  have hdrop : text.toList.dropWhile (· ≠ '.') = [] :=
    List.dropWhile_eq_nil_iff.mpr fun c hc => decide_eq_true fun hdot => h (hdot ▸ hc)
  rw [cutAtDot?, hdrop]

/-- **A cut is made at the first dot**: the text is made up of both parts with a dot between
them, and there is none in the part before. -/
theorem cutAtDot?_eq_some_iff {text before behind : String} :
    cutAtDot? text = some (before, behind) ↔
      text = before ++ "." ++ behind ∧ '.' ∉ before.toList := by
  constructor
  · intro h
    by_cases hdot : '.' ∈ text.toList
    · obtain ⟨first, rest, hsplit, hfirst⟩ := List.eq_append_cons_of_mem hdot
      have htext : text = String.ofList first ++ "." ++ String.ofList rest := by
        refine String.toList_inj.mp ?_
        rw [hsplit, toList_dotted, String.toList_ofList, String.toList_ofList]
      have hfirst' : '.' ∉ (String.ofList first).toList := by
        rwa [String.toList_ofList]
      rw [htext, cutAtDot?_append hfirst'] at h
      obtain ⟨rfl, rfl⟩ := Prod.mk.inj (Option.some.inj h)
      exact ⟨htext, hfirst'⟩
    · rw [cutAtDot?_eq_none hdot] at h
      exact absurd h (by simp)
  · rintro ⟨rfl, hbefore⟩
    exact cutAtDot?_append hbefore behind

/-! ### Characters of names -/

theorem isAlphanum_iff {c : Char} :
    c.isAlphanum = true ↔
      ((65 ≤ c.toNat ∧ c.toNat ≤ 90) ∨ (97 ≤ c.toNat ∧ c.toNat ≤ 122)) ∨
        (48 ≤ c.toNat ∧ c.toNat ≤ 57) := by
  have hclasses : c.isAlphanum = (decide (c.val ≥ 'A'.val ∧ c.val ≤ 'Z'.val) ||
      decide (c.val ≥ 'a'.val) && decide (c.val ≤ 'z'.val) ||
        decide (c.val ≥ '0'.val) && decide (c.val ≤ '9'.val)) := rfl
  simp only [hclasses, Bool.or_eq_true, Bool.and_eq_true, decide_eq_true_eq]
  exact Iff.rfl

/-- **Names are of visible characters**, those of ASCII from `!` to `~`. -/
theorem isNameChar_iff {c : Char} : isNameChar c = true ↔ 33 ≤ c.toNat ∧ c.toNat ≤ 126 := by
  rw [isNameChar, Bool.or_eq_true, isAlphanum_iff, isPunctuation]
  simp only [Bool.or_eq_true, Bool.and_eq_true, decide_eq_true_eq]
  omega

/-! ### Names of functions -/

/-- **The first dot** of the name of an entrypoint divides the two names it is made of. -/
theorem ReceiveMethod.cutAtDot?_receiveName (method : ReceiveMethod) :
    cutAtDot? method.receiveName = some (method.contract.text, method.entrypoint.text) :=
  cutAtDot?_eq_some_iff.mpr ⟨rfl, method.contract.isValid.2.2.2⟩

theorem ReceiveMethod.eq_of_receiveName_eq {method method' : ReceiveMethod}
    (h : method.receiveName = method'.receiveName) :
    method.contract = method'.contract ∧ method.entrypoint = method'.entrypoint := by
  have hcut := congrArg cutAtDot? h
  rw [cutAtDot?_receiveName, cutAtDot?_receiveName] at hcut
  obtain ⟨hcontract, hentrypoint⟩ := Prod.mk.inj (Option.some.inj hcut)
  exact ⟨ContractName.ext hcontract, EntrypointName.ext hentrypoint⟩

namespace ContractName

theorem toList_initName (name : ContractName) :
    name.initName.toList = "init_".toList ++ name.text.toList :=
  String.toList_append

/-- There is no dot in the name of an init function. -/
theorem cutAtDot?_initName (name : ContractName) : cutAtDot? name.initName = none := by
  refine cutAtDot?_eq_none ?_
  rw [toList_initName, List.mem_append]
  exact not_or.mpr ⟨by simp, name.isValid.2.2.2⟩

theorem eq_of_initName_eq {name name' : ContractName} (h : name.initName = name'.initName) :
    name = name' := by
  have hlist := congrArg String.toList h
  rw [toList_initName, toList_initName] at hlist
  exact ContractName.ext (String.toList_inj.mp (List.append_cancel_left hlist))

theorem utf8ByteSize_initName_le (name : ContractName) : name.initName.utf8ByteSize ≤ 100 := by
  have hsize : name.initName.utf8ByteSize = "init_".utf8ByteSize + name.text.utf8ByteSize :=
    String.utf8ByteSize_append
  have hinit : "init_".utf8ByteSize = 5 := by decide
  have hlength : name.text.utf8ByteSize ≤ 95 := name.isValid.2.1
  omega

theorem isNameChar_of_mem_initName (name : ContractName) :
    ∀ c ∈ name.initName.toList, isNameChar c = true := by
  rw [toList_initName]
  refine List.forall_mem_append.mpr ⟨?_, name.isValid.2.2.1⟩
  exact List.all_eq_true.mp (by decide)

end ContractName

/-- **Names on chain are unambiguous.** Cutting the name of an entrypoint at its first dot
gives the names of the contract and of the entrypoint back, so no other two have the same
name on chain. Neither have two contracts the same name of an init function. Such a name is
of at most a hundred visible characters of ASCII, and it is never the name of an entrypoint.
Within the bindings of a contract two methods of the same name on chain have the same
entrypoint. -/
theorem names_on_chain_unambiguous :
    (∀ method : ReceiveMethod,
      cutAtDot? method.receiveName = some (method.contract.text, method.entrypoint.text)) ∧
    (∀ method method' : ReceiveMethod, method.receiveName = method'.receiveName →
      method.contract = method'.contract ∧ method.entrypoint = method'.entrypoint) ∧
    (∀ name name' : ContractName, name.initName = name'.initName → name = name') ∧
    (∀ name : ContractName, name.initName.utf8ByteSize ≤ 100 ∧
      ∀ c ∈ name.initName.toList, 33 ≤ c.toNat ∧ c.toNat ≤ 126) ∧
    (∀ (name : ContractName) (method : ReceiveMethod), name.initName ≠ method.receiveName) ∧
    ∀ (bindings : ContractBindings), ∀ row ∈ bindings.methods, ∀ row' ∈ bindings.methods,
      row.2.receiveName = row'.2.receiveName → row.2.entrypoint = row'.2.entrypoint := by
  refine ⟨ReceiveMethod.cutAtDot?_receiveName, fun _ _ => ReceiveMethod.eq_of_receiveName_eq,
    fun _ _ => ContractName.eq_of_initName_eq, fun name => ⟨name.utf8ByteSize_initName_le, ?_⟩,
    fun name method heq => ?_, fun bindings row _ row' _ heq => ?_⟩
  · exact fun c hc => isNameChar_iff.mp (name.isNameChar_of_mem_initName c hc)
  · have hcut := name.cutAtDot?_initName
    rw [heq, method.cutAtDot?_receiveName] at hcut
    exact Option.some_ne_none _ hcut
  · exact (ReceiveMethod.eq_of_receiveName_eq heq).2

/-- A contract whose name looks like that of an init function, and an entrypoint with a dot. -/
def dotted : ReceiveMethod :=
  .ofNames ⟨"init_a", by decide, by decide, List.all_eq_true.mp (by decide), by decide⟩
    ⟨"b.c", by decide, List.all_eq_true.mp (by decide)⟩

theorem names_on_chain_unambiguous_dotted :
    dotted.receiveName = "init_a.b.c" ∧ cutAtDot? "init_a.b.c" = some ("init_a", "b.c") ∧
      dotted.contract.initName ≠ "init_a.b.c" ∧
        (∀ method : ReceiveMethod, method.receiveName = "init_a.b.c" →
          method.entrypoint.text = "b.c") ∧
          ∀ name : ContractName, name.initName = "init_init_a" → name.text = "init_a" := by
  obtain ⟨hcut, hsame, hsame', -, hinit, -⟩ := names_on_chain_unambiguous
  have hname : dotted.receiveName = "init_a.b.c" := by decide
  have hname' : dotted.contract.initName = "init_init_a" := by decide
  refine ⟨hname, hname ▸ hcut dotted, hname ▸ hinit dotted.contract dotted, fun method h => ?_,
    fun name h => ?_⟩
  · rw [(hsame method dotted (h.trans hname.symm)).2]
    rfl
  · rw [hsame' name dotted.contract (h.trans hname'.symm)]
    rfl

end ContractSchema
