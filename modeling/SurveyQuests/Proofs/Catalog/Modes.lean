import Mathlib.Data.List.Forall2
import SurveyQuests.Proofs.Catalog.Compiling

/-!
# Strict and lenient catalogs

A strict compilation is a lenient one that ends at the first fault: if the lenient one has no fault,
the two give the same catalog, and otherwise the strict one gives the first fault of the lenient one
(`compileAll_eq`).  So it is enough to say what the lenient one keeps and what it leaves out.  It
keeps the definitions whose filters compile and leaves out the others, both in their order, and the
first fault tells the place, the name and the error of the first definition that it leaves out.

Restricting a catalog to several countries, one after another, leaves the quests that are offered in
all of them, and since restricting and matching both choose quests, it does not matter to the
matches which of the two is done first.

## What is here

* `QuestDefinition.Keeps` — a quest is what its definition says;
* `forall₂_keeps`, `skipped_compileEach` — what a lenient compilation keeps and what it leaves out;
* `compileAll_eq`, `IsFirstFault` — a strict compilation ends at the first fault;
* `foldl_retain`, `matching_foldl_retain` — several countries;
* `Catalog.modes_agree` — **strict and lenient compilation agree**.
-/

set_option autoImplicit false

namespace SurveyQuests

namespace QuestDefinition

instance (d : QuestDefinition) : Decidable d.Compiles :=
  match h : CompiledQuery.compile d.filter with
  | .ok query => isTrue ⟨query, h⟩
  | .error _ => isFalse fun ⟨_, hquery⟩ ↦ by simp [h] at hquery

/-- The quest is what its definition says, in a catalog with this policy. -/
structure Keeps (policy : Option PinningPolicy) (d : QuestDefinition) (quest : Quest) : Prop where
  name : quest.name = d.name
  commitMessage : quest.commitMessage = d.commitMessage
  wikiLink : quest.wikiLink = d.wikiLink
  countries : quest.countries = d.countries
  /-- The query tells the filter of the definition as its source. -/
  source : quest.query.source = d.filter
  /-- It asks for what the filter compiles to, -/
  query : ∃ query, CompiledQuery.compile d.filter = .ok query ∧ quest.query.query = query.query
  /-- with the policy of the catalog, or with the cautious one where the catalog has none. -/
  policy : quest.query.policy = policy.getD .conservative

/-- The source of a query is kept, and its policy is the cautious one until it is given another. -/
theorem source_policy_of_compile {source : String} {query : CompiledQuery}
    (h : CompiledQuery.compile source = .ok query) :
    query.source = source ∧ query.policy = .conservative := by
  rw [CompiledQuery.compile] at h
  rcases hread : Query.read source with e | q
  · simp [hread, Except.map] at h
  · simp only [hread, Except.map, Except.ok.injEq] at h
    rw [← h]
    exact ⟨rfl, rfl⟩

variable {policy : Option PinningPolicy} {number : Nat} {d : QuestDefinition}

/-- A definition compiles to a quest that is what it says, or to the fault of its filter. -/
theorem compile_cases (policy : Option PinningPolicy) (number : Nat) (d : QuestDefinition) :
    (d.Compiles ∧ ∃ quest, d.compile policy number = .ok quest ∧ d.Keeps policy quest) ∨
      ¬ d.Compiles ∧ ∃ e, CompiledQuery.compile d.filter = .error e ∧
        d.compile policy number = .error ⟨number, d.name, e.location d.filter, e⟩ := by
  rcases hquery : CompiledQuery.compile d.filter with e | query
  · right
    refine ⟨?_, e, rfl, by simp [compile, hquery]⟩
    rintro ⟨query, h⟩
    simp [hquery] at h
  · left
    obtain ⟨hsource, hcautious⟩ := source_policy_of_compile hquery
    have hcompile : d.compile policy number = .ok ⟨d.name,
        ⟨d.filter, query.query, policy.getD .conservative⟩, d.commitMessage, d.wikiLink,
        d.countries⟩ := by
      rw [compile, hquery, ← hsource, ← hcautious]
      rcases policy with - | policy <;> rfl
    exact ⟨⟨query, hquery⟩, _, hcompile, ⟨rfl, rfl, rfl, rfl, rfl, ⟨query, hquery, rfl⟩, rfl⟩⟩

end QuestDefinition

namespace Catalog

variable {policy : Option PinningPolicy} {number : Nat} {ds : List QuestDefinition}

/-! ## What a lenient compilation keeps and leaves out -/

theorem compileEach_cons_of_ok {d : QuestDefinition} {quest : Quest}
    (h : d.compile policy number = .ok quest) :
    compileEach policy number (d :: ds) =
      { compileEach policy (number + 1) ds with
        quests := quest :: (compileEach policy (number + 1) ds).quests } := by
  rw [compileEach, h]

theorem compileEach_cons_of_error {d : QuestDefinition} {fault : FilterFault}
    (h : d.compile policy number = .error fault) :
    compileEach policy number (d :: ds) =
      { compileEach policy (number + 1) ds with
        faults := fault :: (compileEach policy (number + 1) ds).faults } := by
  rw [compileEach, h]

/-- **The definitions whose filters compile are kept**, in their order and as they are. -/
theorem forall₂_keeps (policy : Option PinningPolicy) (number : Nat) (ds : List QuestDefinition) :
    List.Forall₂ (QuestDefinition.Keeps policy) (ds.filter (·.Compiles))
      (compileEach policy number ds).quests := by
  induction ds generalizing number with
  | nil => exact .nil
  | cons d ds ih =>
    rcases d.compile_cases policy number with ⟨hd, quest, hquest, hkeeps⟩ | ⟨hd, e, -, herror⟩
    · rw [List.filter_cons_of_pos (by simpa using hd), compileEach_cons_of_ok hquest]
      exact .cons hkeeps (ih (number + 1))
    · rw [List.filter_cons_of_neg (by simpa using hd), compileEach_cons_of_error herror]
      exact ih (number + 1)

/-- **The others are left out**, in their order. -/
theorem skipped_compileEach (policy : Option PinningPolicy) (number : Nat)
    (ds : List QuestDefinition) :
    (compileEach policy number ds).skipped =
      (ds.filter (¬ ·.Compiles)).map QuestDefinition.name := by
  induction ds generalizing number with
  | nil => rfl
  | cons d ds ih =>
    rcases d.compile_cases policy number with ⟨hd, quest, hquest, -⟩ | ⟨hd, e, -, herror⟩
    · rw [List.filter_cons_of_neg (by simpa using hd), compileEach_cons_of_ok hquest]
      exact ih (number + 1)
    · rw [List.filter_cons_of_pos (by simpa using hd), compileEach_cons_of_error herror, skipped,
        List.map_cons, List.map_cons, ← ih (number + 1)]
      rfl

/-! ## The first fault -/

/-- **A strict compilation ends at the first fault of the lenient one**, and if there is none it has
the same quests. -/
theorem compileAll_eq (policy : Option PinningPolicy) (number : Nat) (ds : List QuestDefinition) :
    compileAll policy number ds =
      match (compileEach policy number ds).faults with
      | [] => .ok (compileEach policy number ds).quests
      | fault :: _ => .error fault := by
  induction ds generalizing number with
  | nil => rfl
  | cons d ds ih =>
    rcases hd : d.compile policy number with fault | quest
    · rw [compileEach_cons_of_error hd, compileAll, hd]
      rfl
    · rw [compileEach_cons_of_ok hd, compileAll, hd, ih (number + 1)]
      rcases hfaults : (compileEach policy (number + 1) ds).faults with - | ⟨fault, faults⟩ <;>
        simp [bind, Except.bind, pure, Except.pure]

theorem compileStrict_eq (d : CatalogDefinition) :
    compileStrict d =
      match (compileLenient d).faults with
      | [] => .ok (compileLenient d)
      | fault :: _ => .error fault := by
  rw [compileStrict, compileAll_eq, compileLenient]
  generalize compileEach d.policy 1 d.quests = lenient
  obtain ⟨quests, faults⟩ := lenient
  cases faults <;> rfl

/-- The fault is that of the first definition whose filter does not compile.  The places of the
definitions are counted from `number`. -/
structure IsFirstFault (number : Nat) (ds front : List QuestDefinition) (d : QuestDefinition)
    (back : List QuestDefinition) (fault : FilterFault) : Prop where
  definitions_eq : ds = front ++ d :: back
  /-- The filters before it compile, -/
  front_compiles : ∀ q ∈ front, q.Compiles
  /-- and its own does not, for the reason that the fault gives. -/
  error : CompiledQuery.compile d.filter = .error fault.error
  /-- The fault has its place, -/
  number_eq : fault.number = front.length + number
  /-- its name, -/
  name_eq : fault.name = d.name
  /-- and line and column of the error in its filter. -/
  location_eq : fault.location = fault.error.location d.filter

theorem exists_isFirstFault {fault : FilterFault} {faults : List FilterFault}
    (h : (compileEach policy number ds).faults = fault :: faults) :
    ∃ front d back, IsFirstFault number ds front d back fault := by
  induction ds generalizing number with
  | nil => simp [compileEach] at h
  | cons d ds ih =>
    rcases d.compile_cases policy number with ⟨hd, quest, hquest, -⟩ | ⟨hd, e, he, herror⟩
    · rw [compileEach_cons_of_ok hquest] at h
      obtain ⟨front, d', back, hfirst⟩ := ih h
      refine ⟨d :: front, d', back, by rw [hfirst.definitions_eq, List.cons_append],
        List.forall_mem_cons.2 ⟨hd, hfirst.front_compiles⟩, hfirst.error, ?_, hfirst.name_eq,
        hfirst.location_eq⟩
      rw [hfirst.number_eq, List.length_cons]
      omega
    · rw [compileEach_cons_of_error herror] at h
      obtain ⟨rfl, -⟩ := List.cons.inj h
      exact ⟨[], d, ds, rfl, by simp, he, by simp, rfl, rfl⟩

/-- The message of a fault tells place, name, line and column, and what is wrong. -/
theorem message_of_fault (fault : FilterFault) :
    fault.message =
      "Config: Error compiling filter of quest " ++ toString fault.number ++ " '" ++ fault.name ++
        "' at line " ++ toString fault.location.line ++ ", column " ++
        toString fault.location.column ++ ": " ++ fault.error.message := by
  have hjoin : "' " ++ "at line " = "' at line " := by decide
  unfold FilterFault.message FilterFault.details
  rw [← hjoin]
  simp only [String.append_assoc]

/-! ## Several countries -/

/-- Is the quest offered in all of the countries? -/
def IsOfferedIn (countries : List String) (quest : Quest) : Prop :=
  ∀ country ∈ countries, quest.countries.allows country = true

instance (countries : List String) (quest : Quest) : Decidable (IsOfferedIn countries quest) :=
  inferInstanceAs (Decidable (∀ _ ∈ _, _))

variable (countries : List String) (catalog : Catalog)

/-- **What several countries leave** are the quests that are offered in all of them. -/
theorem foldl_retain :
    countries.foldl retain catalog =
      { catalog with quests := catalog.quests.filter (IsOfferedIn countries) } := by
  induction countries generalizing catalog with
  | nil => simp [IsOfferedIn]
  | cons country countries ih =>
    have hall (quest : Quest) : decide (IsOfferedIn (country :: countries) quest) =
        (decide (IsOfferedIn countries quest) && quest.countries.allows country) := by
      rw [Bool.eq_iff_iff, Bool.and_eq_true, decide_eq_true_iff, decide_eq_true_iff]
      simp [IsOfferedIn, and_comm]
    simp only [List.foldl_cons, ih, retain, List.filter_filter, hall]

/-- It does not matter whether quests are matched before or after restricting the catalog. -/
theorem matching_foldl_retain (e : Element) (reference : Date) :
    (countries.foldl retain catalog).matching e reference =
      (catalog.matching e reference).filter (IsOfferedIn countries) := by
  rw [foldl_retain, matching, matching, List.filter_filter, List.filter_filter]
  simp only [Bool.and_comm]

/-! ## The two modes -/

/-- What the lenient catalog of a definition has to do with the definition and with a strict
compilation of it. -/
structure Agrees (d : CatalogDefinition) (lenient : Catalog) : Prop where
  /-- Its quests are the definitions whose filters compile, in their order and as they are. -/
  kept : List.Forall₂ (QuestDefinition.Keeps d.policy) (d.quests.filter (·.Compiles)) lenient.quests
  /-- Those left out are the others, in their order. -/
  left_out : lenient.skipped = (d.quests.filter (¬ ·.Compiles)).map QuestDefinition.name
  /-- A strict compilation succeeds if and only if nothing is left out, -/
  strict_iff : (∃ catalog, compile d true = .ok catalog) ↔ lenient.skipped = []
  /-- and then gives the same catalog. -/
  strict_eq : ∀ catalog, compile d true = .ok catalog → catalog = lenient
  /-- Otherwise it ends with the fault of the first definition that fails, which is the first one
  left out, and says which one that is and where it fails. -/
  strict_fault : ∀ fault, compile d true = .error fault →
    lenient.skipped.head? = some fault.name ∧
      (∃ front q back, IsFirstFault 1 d.quests front q back fault) ∧
      fault.message =
        "Config: Error compiling filter of quest " ++ toString fault.number ++ " '" ++ fault.name ++
          "' at line " ++ toString fault.location.line ++ ", column " ++
          toString fault.location.column ++ ": " ++ fault.error.message

/-- What is left of a catalog that has been restricted to countries one after another. -/
structure IsRestricted (countries : List String) (catalog left : Catalog) : Prop where
  /-- The quests that are offered in all of the countries, in their order. -/
  quests_eq : left.quests = catalog.quests.filter (IsOfferedIn countries)
  /-- Those left out before stay as they are. -/
  skipped_eq : left.skipped = catalog.skipped
  /-- The names that match an element are those that matched it before, of the quests left. -/
  names_eq : ∀ (e : Element) (reference : Date),
    (left.matching e reference).map Quest.name =
      ((catalog.matching e reference).filter (IsOfferedIn countries)).map Quest.name

/-- **Strict and lenient compilation agree**, and countries are left out before or after matching
alike. -/
theorem modes_agree (d : CatalogDefinition) :
    (∃ lenient, compile d false = .ok lenient ∧ Agrees d lenient) ∧
      ∀ (countries : List String) (catalog : Catalog),
        IsRestricted countries catalog (countries.foldl retain catalog) := by
  have hstrict : compile d true = compileStrict d := if_pos rfl
  refine ⟨⟨compileLenient d, rfl, forall₂_keeps d.policy 1 d.quests,
    skipped_compileEach d.policy 1 d.quests, ?_, ?_, ?_⟩, fun countries catalog ↦ ?_⟩
  · rw [hstrict, compileStrict_eq, skipped]
    rcases (compileLenient d).faults with - | ⟨fault, faults⟩ <;> simp
  · intro catalog h
    rw [hstrict, compileStrict_eq] at h
    rcases hfaults : (compileLenient d).faults with - | ⟨fault, faults⟩ <;> simp_all
  · intro fault h
    rw [hstrict, compileStrict_eq] at h
    rcases hfaults : (compileLenient d).faults with - | ⟨first, faults⟩
    · simp [hfaults] at h
    · obtain rfl : first = fault := by simpa [hfaults] using h
      exact ⟨by simp [skipped, hfaults], exists_isFirstFault hfaults, message_of_fault first⟩
  · refine ⟨by rw [foldl_retain], by rw [foldl_retain]; rfl, fun e reference ↦ ?_⟩
    rw [matching_foldl_retain]

/-- Two filters of four do not compile, and a name is used twice. -/
theorem modes_agree_four :
    let d : CatalogDefinition := ⟨[⟨"shelter", "nodes with !shelter", none, none, .only ["de"]⟩,
      ⟨"broken", "nodes with\n (shop", none, none, .everywhere⟩,
      ⟨"shelter", "ways", some "message", none, .except ["FR"]⟩,
      ⟨"lost", "", none, none, .everywhere⟩], some .latestDay⟩
    ∃ lenient fault, compile d false = .ok lenient ∧ Agrees d lenient ∧
      lenient.skipped = ["broken", "lost"] ∧ compile d true = .error fault ∧
      fault.number = 2 ∧ fault.location = ⟨2, 7⟩ ∧
      IsRestricted ["DE", "it"] lenient (lenient.retain "DE" |>.retain "it") := by
  intro d
  obtain ⟨⟨lenient, hlenient, hagrees⟩, hrestricted⟩ := modes_agree d
  obtain rfl : compileLenient d = lenient := Except.ok.inj hlenient
  have hfaults : (compileLenient d).faults =
      [⟨2, "broken", ⟨2, 7⟩, .structural ⟨17, .closingParen, .token .eof⟩⟩,
        ⟨4, "lost", ⟨1, 1⟩, .structural ⟨0, .elementKind, .token .eof⟩⟩] := by
    decide +kernel
  have hfault : compile d true =
      .error ⟨2, "broken", ⟨2, 7⟩, .structural ⟨17, .closingParen, .token .eof⟩⟩ := by
    rw [compile, if_pos rfl, compileStrict_eq, hfaults]
  have hskipped : (compileLenient d).skipped = ["broken", "lost"] := by
    rw [skipped, hfaults]
    rfl
  exact ⟨_, _, hlenient, hagrees, hskipped, hfault, rfl, rfl,
    hrestricted ["DE", "it"] (compileLenient d)⟩

end Catalog

end SurveyQuests
