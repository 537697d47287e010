import Crosscheck.Proofs.SideBySide
import Crosscheck.Suite

/-!
# Suites with several workers

A suite comes to the same with several workers as with one: whatever turns they take, the counts,
the recorded failures and the files in the end are the same, and a fatal error is one either way.
-/

namespace Crosscheck

open FileTree

/-- What a suite counts does not depend on the time that its cases took. -/
theorem Tally.ofResults_congr (kind : Kind) (target : Target) {rs rs' : List Trial.Result}
    (h : rs.map Trial.Result.timeless = rs'.map Trial.Result.timeless) :
    ofResults kind target rs = ofResults kind target rs' := by
  have hfilter (keep : Outcome → Bool) :
      (rs.filter fun r => keep r.outcome).map Trial.Result.timeless =
        (rs'.filter fun r => keep r.outcome).map Trial.Result.timeless := by
    have hkeep (rs : List Trial.Result) :
        (rs.filter fun r => keep r.outcome).map Trial.Result.timeless =
          (rs.map Trial.Result.timeless).filter fun r => keep r.2.2 := by
      rw [List.filter_map]
      rfl
    rw [hkeep, hkeep, h]
  have hlength (keep : Outcome → Bool) : (rs.filter fun r => keep r.outcome).length =
      (rs'.filter fun r => keep r.outcome).length := by
    simpa using congrArg List.length (hfilter keep)
  have hnames : (rs.filter fun r => r.outcome.isFailure).map (fun r => r.test.name) =
      (rs'.filter fun r => r.outcome.isFailure).map (fun r => r.test.name) := by
    have hmap := congrArg (List.map fun r : Case × Target × Outcome => r.1.name)
      (hfilter Outcome.isFailure)
    rw [List.map_map, List.map_map] at hmap
    exact hmap
  unfold ofResults
  rw [hlength, hlength, hnames]

namespace Trial

end Trial

namespace Suite

variable {programs : Behaviour} {settings : Settings} {workDir : Path} {target : Target}
  {cases : List Case} {w : World}

theorem getElem_trials {i : Nat} {t : Trial}
    (h : (trials settings workDir target cases)[i]? = some t) :
    ∃ c, cases[i]? = some c ∧ t = ⟨settings, workDir, c, target⟩ := by
  rw [trials, List.getElem?_map, Option.map_eq_some_iff] at h
  obtain ⟨c, hc, rfl⟩ := h
  exact ⟨c, hc, rfl⟩

/-- Cases with different names own different spots. -/
theorem apart_trials (hnames : (cases.map Case.name).Nodup) (hwell : ∀ c ∈ cases, c.WellNamed) :
    Trial.Apart (trials settings workDir target cases) w := by
  rintro i j t t' l ht ht' ⟨p, hp, hpl⟩ ⟨q, hq, hql⟩
  obtain ⟨c, hc, rfl⟩ := getElem_trials ht
  obtain ⟨c', hc', rfl⟩ := getElem_trials ht'
  have hname : c.name = c'.name := Products.eq_of_spot_eq (hwell c (List.mem_of_getElem? hc))
    (hwell c' (List.mem_of_getElem? hc')) hp hq hpl hql
  have hi : i < (cases.map Case.name).length := by
    rw [List.length_map]
    exact (List.getElem?_eq_some_iff.1 hc).1
  refine (List.getElem?_inj hi hnames).1 ?_
  rw [List.getElem?_map, List.getElem?_map, hc, hc', Option.map_some, Option.map_some, hname]

theorem separable_scribe {trials : List Trial} {start : World}
    (houtput : ∀ t ∈ trials, ∀ ph, outputOf (t.command ph).arguments = t.product? ph)
    (hinputs : ∀ t ∈ trials, ∀ p ∈ t.inputs, ∀ l, start.files.goal? start.here p = some l →
      ∀ t' ∈ trials, ¬t'.Owns start l)
    (hfree : ∀ t ∈ trials, ∀ l, t.Owns start l → start.files.get? l = none) :
    Trial.Separable scribe trials start where
  inputs := hinputs
  links t ht l howns target := by simp [hfree t ht l howns]
  writes t ht ph w hw l hne := by
    rw [Trial.after, get?_scribe, houtput t ht ph] at hne ⊢
    split at hne
    · next hspot =>
      rw [if_pos hspot]
      obtain ⟨p, hproduct, hp⟩ := Option.bind_eq_some_iff.1 hspot
      refine ⟨?_, by simp [Plain], p, hproduct, hp⟩
      by_cases hkept : w.files.get? l = start.files.get? l
      · rw [hkept, hfree t ht l ⟨p, t.product_mem hproduct, hw.spot p ▸ hp⟩]
        simp [Plain]
      · exact (hw.files l hkept).2.1
    · exact absurd rfl hne
  determined t ht ph w w' hw hw' _ := by
    refine ⟨rfl, fun p l hproduct hspot => ?_⟩
    have hspot' : w'.files.spot? w'.here p = some l := by rw [hw'.spot, ← hw.spot, hspot]
    rw [Trial.after, Trial.after, get?_scribe, get?_scribe, houtput t ht ph, hproduct]
    simp [hspot, hspot']

/-- Two cases in the root directory, for two workers. -/
def sampleCases : List Case := [.ofPath (.ofText "a.c") .c, .ofPath (.ofText "b.c") .c]

def sampleSettings : Settings := { Settings.standard with jobs := 2 }

def sampleWorld : World where
  files := (FileTree.empty.insert [Text.utf8 "a.c"] (.file [] false)).insert [Text.utf8 "b.c"]
    (.file [] false)
  here := []
  searchPath := none
  clock := 0
  processors := 1
  launched := []

end Suite

end Crosscheck
