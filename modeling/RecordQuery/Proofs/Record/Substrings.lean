import RecordQuery.Proofs.FinalSigma
import RecordQuery.Proofs.Record.Paths
import RecordQuery.Proofs.Selection

/-! Parts of the texts in records. A test that ignores case lower-cases the part that it looks for
alone, and the text of a value as a whole. So it passes whatever the exact test passes only if the
part settles the form of each of its capital sigmas (`selection_contains_widens_iff`). -/

namespace RecordQuery.Query

open Record (text valuesOf)

/-- Whether a value of a field holds a part exactly. -/
theorem selection_contains (field : Field) (part : String) :
    (leaf ⟨field, .contains part true⟩).selection = .ok fun record =>
      (valuesOf field record).any fun value =>
        Text.holdsPart part.toList (text value).toList :=
  rfl

theorem selection_contains_ignoringCase (field : Field) (part : String) :
    (leaf ⟨field, .contains part false⟩).selection = .ok fun record =>
      (valuesOf field record).any fun value =>
        Text.holdsPart (Text.lowerCase part).toList (Text.lowerCase (text value)).toList :=
  rfl

/-- Without regard to case every record is selected that is selected with regard to it, whatever
the field is, exactly if the part settles the form of each of its capital sigmas. One without
capital sigmas does. -/
theorem selection_contains_widens_iff (field : Field) (part : String) :
    ∃ exact loose, (leaf ⟨field, .contains part true⟩).selection = .ok exact ∧
      (leaf ⟨field, .contains part false⟩).selection = .ok loose ∧
      ((∀ record, exact record = true → loose record = true) ↔ Text.isSettled part = true) ∧
      ('Σ' ∉ part.toList → Text.isSettled part = true) := by
  refine ⟨_, _, selection_contains field part, selection_contains_ignoringCase field part, ?_,
    Text.isSettledFrom_of_notMem⟩
  simp only [← Text.infix_lowerCase_iff, List.any_eq_true, Text.holdsPart_iff]
  constructor
  · intro hwidens whole hwithin
    obtain ⟨record, hrecord⟩ := Record.exists_valuesOf_string field whole
    have hloose := hwidens record ⟨.string whole, by rw [hrecord, List.mem_singleton], hwithin⟩
    simpa [hrecord, text] using hloose
  · rintro hlower record ⟨value, hmem, hwithin⟩
    exact ⟨value, hmem, hlower _ hwithin⟩

/-- A blank settles the form of the capital sigma before it, behind another letter. -/
theorem selection_contains_widens_of_ended_word :
    Text.isSettled "ΟΔΟΣ " = true ∧ ∃ exact loose,
      (leaf ⟨.named "f", .contains "ΟΔΟΣ " true⟩).selection = .ok exact ∧
      (leaf ⟨.named "f", .contains "ΟΔΟΣ " false⟩).selection = .ok loose ∧
      ∀ record, exact record = true → loose record = true := by
  have hsettled : Text.isSettled "ΟΔΟΣ " = true := by decide +kernel
  obtain ⟨exact, loose, hexact, hloose, hwidens, -⟩ :=
    selection_contains_widens_iff (.named "f") "ΟΔΟΣ "
  exact ⟨hsettled, exact, loose, hexact, hloose, hwidens.2 hsettled⟩

/-- A capital sigma is final at the end of a word, and is not by itself. -/
theorem exists_part_lost_ignoring_case :
    ∃ exact loose, (leaf ⟨.named "f", .contains "Σ" true⟩).selection = .ok exact ∧
      (leaf ⟨.named "f", .contains "Σ" false⟩).selection = .ok loose ∧
      exact (.object [("f", .string "ΑΣ")]) = true ∧
      loose (.object [("f", .string "ΑΣ")]) = false :=
  ⟨_, _, selection_contains _ _, selection_contains_ignoringCase _ _, by decide +kernel,
    by decide +kernel⟩

end RecordQuery.Query
