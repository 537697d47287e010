import Crosscheck.Proofs.Phases
import Crosscheck.Proofs.Products

/-!
# What a trial tracks

The artifacts of a trial are among its products. A phase takes its product on before its command is
launched, and nothing else is ever removed.
-/

namespace Crosscheck

open FileTree

theorem World.files_remove (w : World) (p : Path) :
    (w.remove p).2.files = w.files.without w.here p := by
  unfold World.remove FileTree.without
  cases w.files.removeFile w.here p <;> rfl

theorem World.here_remove (w : World) (p : Path) : (w.remove p).2.here = w.here := by
  unfold World.remove
  cases w.files.removeFile w.here p <;> rfl

theorem World.searchPath_remove (w : World) (p : Path) :
    (w.remove p).2.searchPath = w.searchPath := by
  unfold World.remove
  cases w.files.removeFile w.here p <;> rfl

namespace Trial

variable (t : Trial)

theorem siblings_products (here : Location) : Siblings here t.products.toList := by
  obtain ⟨names, stem, hnamed⟩ := Products.named_siblings t.workDir t.test.name t.target
  refine ⟨startOf here (t.workDir.join (.ofText t.test.name)), names, fun p hp => ?_⟩
  obtain ⟨suffix, hsuffix, rfl⟩ := Products.mem_toList_iff.1 hp
  exact ⟨Products.startOf_place _ _ _ here hsuffix, _, hnamed suffix hsuffix⟩

theorem product_mem {ph : Phase} {p : Path} (h : t.product? ph = some p) :
    p ∈ t.products.toList := by
  cases ph <;> cases h <;> simp [Products.toList]

theorem hold_subset (ph : Phase) {made : Artifacts} (h : made.paths ⊆ t.products.toList) :
    made.paths ⊆ (t.hold ph made).paths ∧ (t.hold ph made).paths ⊆ t.products.toList := by
  unfold hold
  cases hproduct : t.product? ph with
  | none => exact ⟨List.Subset.refl _, h⟩
  | some p =>
    simp only [Artifacts.paths_track]
    split
    · exact ⟨List.Subset.refl _, h⟩
    · refine ⟨List.subset_append_left .., List.append_subset.2 ⟨h, ?_⟩⟩
      simpa using t.product_mem hproduct

/-- A product is among the artifacts once its phase has taken it on. -/
theorem mem_hold {ph : Phase} {made : Artifacts} {p : Path}
    (h : made.paths ⊆ t.products.toList) (hproduct : t.product? ph = some p) :
    p ∈ (t.hold ph made).paths := by
  simp only [hold, hproduct, Artifacts.paths_track]
  split
  · next hholds =>
    obtain ⟨q, hq, hsame⟩ := hholds
    rwa [← Products.eq_of_same _ _ _ (h hq) (t.product_mem hproduct) hsame]
  · exact List.mem_append_right _ (List.mem_singleton.2 rfl)

end Trial

/-- The path after the first `-o` of some arguments. -/
def outputOf : List Bytes → Option Path
  | flag :: p :: arguments =>
    if flag = Text.utf8 "-o" then some ⟨p⟩ else outputOf (p :: arguments)
  | _ => none

/-- Programs that write an empty file where they are told to, and do nothing else. -/
def scribe : Behaviour := fun w command _ => {
  result := .ok ⟨0, [], []⟩
  files := match (outputOf command.arguments).bind (w.files.spot? w.here) with
    | some l => w.files.insert l (.file [] false)
    | none => w.files
  clock := w.clock }

theorem get?_scribe (w : World) (command : Command) (limit : Option Duration) (l : Location) :
    (w.launch scribe command limit).2.files.get? l =
      if (outputOf command.arguments).bind (w.files.spot? w.here) = some l then
        some (.file [] false)
      else w.files.get? l := by
  simp only [World.launch, scribe]
  cases (outputOf command.arguments).bind (w.files.spot? w.here) with
  | none => simp
  | some k => simp [eq_comm]

end Crosscheck
