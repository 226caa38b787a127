import ShapeCheck.Proofs.Binary64
import ShapeCheck.Proofs.Value.Run

namespace ShapeCheck.Value

/-- Whether an identity belongs to one value only, among the known values of each kind. -/
def IdentityDetermines (known : Value → Prop) : Prop :=
  ∀ v w id, known v → known w → v.tag = w.tag → v.identity? = some id → w.identity? = some id → v = w

theorem Run.identityDetermines {hand : List Value} {next : Identity} (run : Run hand next) :
    IdentityDetermines (Within hand) := by
  intro v w id withinV withinW _ numberedV numberedW
  exact run.sound.coherent withinV withinW numberedV numberedW

def isNaN : Value → Bool
  | number x => x.isNaN
  | _ => false

/-- Literals that are equal whatever their identities are. -/
inductive LiteralsAgree : Value → Value → Prop
  | nan {x y : Binary64} (nanX : x.isNaN = true) (nanY : y.isNaN = true) :
    LiteralsAgree (number x) (number y)
  | date (id id' : Identity) (instant : Instant) : LiteralsAgree (date id instant) (date id' instant)
  | regexp (id id' : Identity) {p q : Pattern} (sources : p.source = q.source)
    (flags : p.flags = q.flags) : LiteralsAgree (regexp id p) (regexp id' q)

def identifier : Value → Value
  | number x => number x.representative
  | symbol id _ => symbol id none
  | date id _ => date id ⟨0⟩
  | regexp id _ => regexp id ⟨"", [], .empty⟩
  | array id _ => array id []
  | object id _ _ => object id .object []
  | error id _ _ _ => error id .object "" []
  | function id _ => function id { name := "", arity := 0 }
  | v => v

def comparand : Value → Value
  | date _ instant => date 0 instant
  | regexp _ pattern => regexp 0 ⟨pattern.source, pattern.flags, .empty⟩
  | v => v.identifier

variable {u v w : Value}

theorem isNaN_identifier (v : Value) : v.identifier.isNaN = v.isNaN := by
  cases v with
  | number x => exact x.isNaN_representative
  | _ => rfl

theorem identical_iff :
    v.identical w = true ↔ v.isNaN = false ∧ v.identifier = w.identifier := by
  cases v <;> cases w <;> simp [identical, isNaN, identifier, Binary64.equals_iff_representative]

theorem sameLiteral_iff : v.sameLiteral w = true ↔ v.identical w = true ∨ v.LiteralsAgree w := by
  unfold sameLiteral
  rw [Bool.or_eq_true]
  apply or_congr_right
  split
  next x y =>
    rw [Bool.and_eq_true]
    constructor
    · exact fun ⟨nanX, nanY⟩ => .nan nanX nanY
    · rintro ⟨nanX, nanY⟩
      exact ⟨nanX, nanY⟩
  next id i id' j =>
    rw [beq_iff_eq]
    constructor
    · rintro rfl
      exact .date id id' i
    · rintro ⟨⟩
      rfl
  next id p id' q =>
    rw [Pattern.sameText, Bool.and_eq_true, beq_iff_eq, beq_iff_eq]
    constructor
    · exact fun ⟨sources, flags⟩ => .regexp id id' sources flags
    · rintro (_ | _ | ⟨-, -, sources, flags⟩)
      exact ⟨sources, flags⟩
  next notNumbers notDates notPatterns =>
    apply iff_of_false Bool.false_ne_true
    rintro (_ | _ | _)
    · exact notNumbers _ _ rfl rfl
    · exact notDates _ _ _ _ rfl rfl
    · exact notPatterns _ _ _ _ rfl rfl

theorem eq_of_identical (coherent : ∀ {id}, v.identity? = some id → w.identity? = some id → v = w)
    (same : v.identical w = true) (other : v.tag ≠ .number) : v = w := by
  have shared := identity?_eq_of_identical same
  cases numbered : v.identity? with
  | some id => exact coherent numbered (shared.symm.trans numbered)
  | none =>
      cases v with
      | number => cases other rfl
      | undefined | null => cases w <;> first | rfl | cases same
      | bool | bigint | string => cases w <;> first | exact congrArg _ (eq_of_beq same) | cases same
      | _ => cases numbered

theorem sameLiteral_iff_comparand (one : v.identical w = true → v.tag ≠ .number → v = w) :
    v.sameLiteral w = true ↔ v.comparand = w.comparand := by
  cases v <;> cases w <;> simp_all [sameLiteral, comparand, identical, identifier,
    Binary64.representative_eq_iff, Pattern.sameText, tag]

theorem identical_self_iff : v.identical v = true ↔ v.isNaN = false := by
  simp [identical_iff]

theorem identical_symm (same : v.identical w = true) : w.identical v = true := by
  rw [identical_iff] at same ⊢
  obtain ⟨number, same⟩ := same
  refine ⟨?_, same.symm⟩
  rw [← isNaN_identifier, ← same, isNaN_identifier, number]

theorem identical_trans (first : u.identical v = true) (second : v.identical w = true) :
    u.identical w = true := by
  rw [identical_iff] at first second ⊢
  exact ⟨first.1, first.2.trans second.2⟩

theorem IdentityDetermines.sameLiteral_iff_comparand {known : Value → Prop}
    (determines : IdentityDetermines known) (knownV : known v) (knownW : known w) :
    v.sameLiteral w = true ↔ v.comparand = w.comparand := by
  apply Value.sameLiteral_iff_comparand
  intro same other
  apply eq_of_identical _ same other
  intro id numberedV numberedW
  exact determines v w id knownV knownW (tag_eq_of_identical same) numberedV numberedW

/-- Literal equality is an equivalence of the values that are known. To be identical goes over from
value to value too, but no NaN is identical to itself. Identical values are literally equal, and
other values are so just when they are two NaNs, two dates of one instant or two patterns of one
text. -/
theorem sameLiteral_equivalence {known : Value → Prop} (determines : IdentityDetermines known) :
    Equivalence (fun v w : Subtype known => v.1.sameLiteral w.1 = true) ∧
      (∀ v w : Value, v.identical w = true → w.identical v = true) ∧
      (∀ u v w : Value, u.identical v = true → v.identical w = true → u.identical w = true) ∧
      (∀ v : Value, v.identical v = true ↔ v.isNaN = false) ∧
      ∀ v w : Value, v.sameLiteral w = true ↔ v.identical w = true ∨ v.LiteralsAgree w := by
  have compared (v w : Subtype known) :
      v.1.sameLiteral w.1 = true ↔ v.1.comparand = w.1.comparand :=
    determines.sameLiteral_iff_comparand v.2 w.2
  refine ⟨?_, fun _ _ => identical_symm, fun _ _ _ => identical_trans, fun _ => identical_self_iff,
    fun _ _ => sameLiteral_iff⟩
  simp only [compared]
  exact ⟨fun _ => rfl, Eq.symm, Eq.trans⟩

theorem sameLiteral_equivalence_dates :
    let known := Within [date 17 ⟨0⟩, date 16 ⟨0⟩]
    IdentityDetermines known ∧
      ∃ v w, known v ∧ known w ∧ v.sameLiteral w = true ∧ w.sameLiteral v = true ∧
        v.identical w = false := by
  intro known
  have run : Run [date 17 ⟨0⟩, date 16 ⟨0⟩] 18 :=
    .make (.make (.start 16) (.date ⟨0⟩) rfl) (.date ⟨0⟩) rfl
  have determines : IdentityDetermines known := run.identityDetermines
  have first : known (date 16 ⟨0⟩) := ⟨_, by simp, .self _⟩
  have second : known (date 17 ⟨0⟩) := ⟨_, by simp, .self _⟩
  obtain ⟨equivalence, -, -, -, cases⟩ := sameLiteral_equivalence determines
  have itself : (date 16 ⟨0⟩).sameLiteral (date 16 ⟨0⟩) = true := equivalence.refl ⟨_, first⟩
  have instant : (date 16 ⟨0⟩).sameLiteral (date 17 ⟨0⟩) = true :=
    (cases _ _).2 (.inr (.date 16 17 ⟨0⟩))
  have both := @Equivalence.trans _ _ equivalence ⟨_, first⟩ ⟨_, first⟩ ⟨_, second⟩ itself instant
  exact ⟨determines, _, _, first, second, both,
    @Equivalence.symm _ _ equivalence ⟨_, first⟩ ⟨_, second⟩ both, rfl⟩

end ShapeCheck.Value
