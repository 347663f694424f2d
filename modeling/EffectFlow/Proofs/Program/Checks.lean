import EffectFlow.Proofs.Program.Acyclic
import Mathlib.Logic.Relation

/-!
# What the check of links accepts

A program is *well linked* if every handle in it is the place of a block, and no block reaches
itself along links (`Program.WellLinked`).  The check of links accepts exactly these programs, and
an error of it names a handle that is to blame (`Program.check_exact`).

That the check accepts no others is a matter of ranks (`Program.Sound`).  That it reports no loop
where there is none follows from what the search for loops keeps: every block on the way reaches
all that is still to be searched (`Program.reaches_itself_of_search`).
-/

namespace EffectFlow

open Relation (TransGen)

namespace Program

/-! ## Well linked programs -/

/-- A link of the first block leads to the second. -/
def LeadsTo (p : Program) (h t : Handle) : Prop := ∃ b, p.block? h = some b ∧ t ∈ b.links

/-- Every handle is the place of a block, and no block reaches itself. -/
structure WellLinked (p : Program) : Prop where
  inside : ∀ h place, p.Refers h place → h < p.blocks.length
  acyclic : ∀ h, ¬TransGen p.LeadsTo h h

variable {p : Program}

/-! ## Loops -/

/-- What a block leads to in any number of links has a lower rank. -/
theorem rank_lt_of_reaches {rank : Handle → Nat} (ranked : p.Ranked rank) {h t : Handle}
    (way : TransGen p.LeadsTo h t) : rank t < rank h := by
  induction way with
  | single link =>
    obtain ⟨b, there, link⟩ := link
    exact ranked _ b there _ link
  | tail _ link ih =>
    obtain ⟨b, there, link⟩ := link
    exact Nat.lt_trans (ranked _ b there _ link) ih

/-- The search closes a loop only at a block that reaches itself, if the blocks on the way reach
all that it is to search. -/
theorem reaches_itself_of_search {path done todo : List Handle} {h : Handle}
    (found : p.search path done todo = .error h)
    (way : ∀ x ∈ path, ∀ t ∈ todo, TransGen p.LeadsTo x t) : TransGen p.LeadsTo h h := by
  have later : ∀ {path todo : List Handle} {t : Handle},
      (∀ x ∈ path, ∀ u ∈ t :: todo, TransGen p.LeadsTo x u) →
        ∀ x ∈ path, ∀ u ∈ todo, TransGen p.LeadsTo x u :=
    fun way x onPath u mem => way x onPath u (List.mem_cons_of_mem _ mem)
  fun_induction Program.search p path done todo with
  | case1 => cases found
  | case2 path done t rest onPath =>
    cases found
    exact way _ onPath _ List.mem_cons_self
  | case3 path done t rest new already ih => exact ih found (later way)
  | case4 path done t rest new fresh missing ih => exact ih found (later way)
  | case5 path done t rest new fresh b there less loop inside ih =>
    cases found
    refine ih inside ?_
    intro x onPath u link
    have step : p.LeadsTo t u := ⟨b, there, List.mem_reverse.1 link⟩
    rcases List.mem_cons.1 onPath with rfl | onPath
    · exact .single step
    · exact (way x onPath t List.mem_cons_self).tail step
  | case6 path done t rest new fresh b there less below inside ihInside ihRest =>
    exact ihRest found (later way)

theorem reaches_itself_of_cycle? {h : Handle} (found : p.cycle? = some h) :
    TransGen p.LeadsTo h h := by
  rw [cycle?] at found
  split at found
  · next loop searched =>
    cases found
    exact reaches_itself_of_search searched fun _ onPath => nomatch onPath
  · cases found

/-! ## The check -/

/-- The check succeeds exactly for programs that are well linked. -/
theorem check_eq_ok_iff : p.check = .ok () ↔ p.WellLinked := by
  constructor
  · intro ok
    obtain ⟨-, rank, ranked⟩ := sound_of_check ok
    refine ⟨dangling?_eq_none_iff.1 ?_, fun h way => ?_⟩
    · rw [check] at ok
      split at ok
      · cases ok
      · next none => exact none
    · exact Nat.lt_irrefl _ (rank_lt_of_reaches ranked way)
  · intro linked
    have noLoop : p.cycle? = none := Option.eq_none_iff_forall_ne_some.2
      fun h found => linked.acyclic h (reaches_itself_of_cycle? found)
    rw [check, dangling?_eq_none_iff.2 linked.inside, noLoop]

/-- The check fails with a reference that was found dangling or with a cycle that was found. -/
theorem of_check_eq_error {error : ProgramError} (failed : p.check = .error error) :
    (∃ h place, error = .dangling h place ∧ p.dangling? = some (h, place)) ∨
      ∃ h, error = .cycle h ∧ p.cycle? = some h := by
  rw [check] at failed
  split at failed
  · next h place found =>
    cases failed
    exact .inl ⟨h, place, rfl, found⟩
  · split at failed
    · next h found =>
      cases failed
      exact .inr ⟨h, rfl, found⟩
    · cases failed

theorem ofText_eq_ok_iff {text : String} (read : ofTextUnchecked text = .ok p) :
    ofText text = .ok p ↔ p.check = .ok () := by
  rw [ofText, read]
  cases checked : p.check <;> simp [checked]

/-- The check of links accepts exactly the well linked programs, and so does reading a program from
a text.  A block that is reported for a loop reaches itself, and a handle that is reported as
dangling stands at its place and points nowhere. -/
theorem check_exact (p : Program) :
    (p.check = .ok () ↔ p.WellLinked) ∧
      (∀ h, p.check = .error (.cycle h) → TransGen p.LeadsTo h h) ∧
      (∀ h place, p.check = .error (.dangling h place) →
        p.blocks.length ≤ h ∧ p.Refers h place) ∧
      ∀ text, ofTextUnchecked text = .ok p → (ofText text = .ok p ↔ p.WellLinked) := by
  refine ⟨check_eq_ok_iff, fun h failed => ?_, fun h place failed => ?_, fun text read => ?_⟩
  · rcases of_check_eq_error failed with ⟨_, _, other, -⟩ | ⟨_, same, found⟩
    · cases other
    · cases same
      exact reaches_itself_of_cycle? found
  · rcases of_check_eq_error failed with ⟨_, _, same, found⟩ | ⟨_, other, -⟩
    · cases same
      exact of_dangling? found
    · cases other
  · rw [ofText_eq_ok_iff read, check_eq_ok_iff]

/-- A gate whose nested chain leads back to it. -/
def looped : Program where
  blocks := [
    { tag := "gate_chance", slots := Dict.ofList [("onFail", 1)] },
    { tag := "effect_heal", next := some 2 },
    { tag := "gate_check", slots := Dict.ofList [("onPass", 0)] }]
  chains := [0]

theorem check_looped : looped.check = .error (.cycle 0) := by
  have third : looped.search [1, 0] [] [2] = .error 0 := by
    rw [search_of_loop (by decide) (by decide) rfl (search_of_mem (by decide))]
  have second : looped.search [0] [] [1] = .error 0 := by
    rw [search_of_loop (by decide) (by decide) rfl third]
  have all : looped.search [] [] [0, 1, 2] = .error 0 := by
    rw [search_of_loop (by decide) (by decide) rfl second]
  have found : looped.cycle? = some 0 := by
    rw [cycle?, show List.range looped.blocks.length = [0, 1, 2] from rfl, all]
  rw [check, show looped.dangling? = none from rfl, found]

/-- A gate with a slot that points nowhere. -/
def strayed : Program where
  blocks := [{ tag := "gate_chance", slots := Dict.ofList [("onPass", 4)] }]
  chains := [0]

theorem check_exact_looped_strayed :
    (looped.check = .error (.cycle 0) ∧ TransGen looped.LeadsTo 0 0) ∧
      strayed.check = .error (.dangling 4 (.slot 0 "onPass")) ∧
      strayed.blocks.length ≤ 4 ∧ strayed.Refers 4 (.slot 0 "onPass") :=
  ⟨⟨check_looped, (check_exact looped).2.1 0 check_looped⟩, rfl,
    (check_exact strayed).2.2.1 4 (.slot 0 "onPass") rfl⟩

end Program

end EffectFlow
