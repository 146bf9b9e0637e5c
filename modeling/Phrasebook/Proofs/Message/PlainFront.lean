import Phrasebook.Proofs.Message.Substitution

/-!
# Plain text in front of a message

Plain text does not change how what stands behind it is read (`reads_append_off_iff`). So a message with plain text in front
is formatted exactly if the message by itself is, and the text stands in front of the result (`format_append_eq_ok_iff`).
-/

namespace Phrasebook.Message

variable {p n : Bool} {c : Char} {text s rest : List Char} {nodes : List Node} {places : List ArgumentPlace}
  {locale result : String} {values : Variables}

/-- A plain character is part of the text that is read first. -/
theorem reads_of_reads_cons (hc : c ≠ '{' ∧ c ≠ '}' ∧ c ≠ '\'') (hpound : p = true → c ≠ '#')
    (h : Reads (.nodes .off p n nodes) (c :: s) rest places) :
    ∃ nodes', Reads (.nodes .off p n nodes') s rest places ∧ nodes = prepend [c] nodes' := by
  have hplain : textStep p .off c = some ([c], .off) := textStep_plain hc hpound rfl
  cases h with
  | text hstep hnodes =>
    rw [hplain] at hstep
    cases hstep
    exact ⟨_, hnodes, rfl⟩
  | closed _ => exact absurd rfl hc.2.1
  | pound hstep _ =>
    rw [hplain] at hstep
    cases hstep
  | argument _ _ _ => exact absurd rfl hc.1

/-- With plain text in front, nodes are read with this text in front, and no others. -/
theorem reads_append_off_iff (hplain : IsPlain text) (hpound : p = true → '#' ∉ text) :
    Reads (.nodes .off p n nodes) (text ++ s) rest places ↔
      ∃ nodes', Reads (.nodes .off p n nodes') s rest places ∧ nodes = prepend text nodes' := by
  constructor
  · intro h
    induction text generalizing nodes with
    | nil => exact ⟨nodes, h, (prepend_nil nodes).symm⟩
    | cons c text ih =>
      have hc : p = true → c ≠ '#' := fun hp heq => hpound hp (heq ▸ List.mem_cons_self)
      obtain ⟨nodes', hnodes', rfl⟩ := reads_of_reads_cons (hplain c List.mem_cons_self) hc h
      obtain ⟨others, hothers, rfl⟩ := ih (fun d hd => hplain d (List.mem_cons_of_mem c hd))
        (fun hp hmem => hpound hp (List.mem_cons_of_mem c hmem)) hnodes'
      exact ⟨others, hothers, (prepend_cons c text others).symm⟩
  · rintro ⟨nodes', hnodes', rfl⟩
    exact reads_append_off hplain hpound hnodes'

/-- A message with plain text in front is formatted exactly if the message is, with the text in front of the result. -/
theorem format_append_eq_ok_iff {text message : String} (hplain : IsPlain text.toList) :
    Formatter.standard.format (text ++ message) locale values = .ok result ↔
      ∃ others, Formatter.standard.format message locale values = .ok others ∧ result = text ++ others := by
  have hpound : false = true → '#' ∉ text.toList := nofun
  simp only [format_eq_ok_iff, read_eq_ok_iff, String.toList_append, reads_append_off_iff hplain hpound]
  constructor
  · rintro ⟨nodes, ⟨places, nodes', hreads, rfl⟩, hrender⟩
    obtain ⟨others, hothers, rfl⟩ := renderNodes_prepend_eq_ok_iff.mp hrender
    exact ⟨others, ⟨nodes', ⟨places, hreads⟩, hothers⟩, by rw [String.ofList_toList]⟩
  · rintro ⟨others, ⟨nodes', ⟨places, hreads⟩, hothers⟩, rfl⟩
    refine ⟨_, ⟨places, nodes', hreads, rfl⟩, renderNodes_prepend_eq_ok_iff.mpr ⟨others, hothers, ?_⟩⟩
    rw [String.ofList_toList]

end Phrasebook.Message
