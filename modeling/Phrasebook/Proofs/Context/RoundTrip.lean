import Phrasebook.Proofs.Context.Filling
import Phrasebook.Proofs.Message.PlainText
import Phrasebook.Proofs.Template.Recovery

/-!
# Formatting and taking apart

The values of a formatted message are recovered from it if its template and the values are plain, so that the formatter
changes nothing, and if the texts of the template tell the values apart (`get?_recoverVariables_formatMessage`).
-/

namespace Phrasebook.Context

open Message Template Text

variable {c : Context} {descriptor : Descriptor} {locale fallback : Option String} {template : String}
  {values : Variables}

/-- A template that the catalogue holds is the one that is used, unless it is empty. -/
theorem templateOf_of_lookup (h : c.lookup descriptor.id locale = some template) (hne : template ≠ "") :
    c.templateOf locale descriptor = some template := by
  rw [templateOf, h]
  simp [nonempty, hne]

/-- The message of a descriptor with a template is this template, filled and then formatted. -/
theorem value_formatMessage (h : c.lookup descriptor.id locale = some template) (hne : template ≠ "") :
    (c.formatMessage descriptor (some values) locale fallback).value =
      (c.present locale values
        (fill template (some values) fallback (c.resolve locale (maxDepth - 1) [descriptor.id])).value).value := by
  simp only [formatMessage, formatWith, templateOf_of_lookup h hne, Logged.value_bind, Option.getD_some]

/-- A text that the formatter takes is presented as the formatter has it. -/
theorem value_present_of_ok {text formatted : String}
    (h : c.formatter.format text (c.localeOf locale) values = .ok formatted) :
    (c.present locale values text).value = formatted := by
  rw [present, h]
  rfl

/-- Plain texts and plain values filled in are plain. -/
theorem isPlain_fillWith {parts : Segments} {f : String → List Char} (hfirst : IsPlain parts.first)
    (hnamed : ∀ part ∈ parts.named, IsPlain part.2 ∧ IsPlain (f part.1)) : IsPlain (parts.fillWith f) := by
  apply hfirst.append
  intro c hc
  obtain ⟨part, hpart, hc⟩ := List.mem_flatMap.mp hc
  exact (hnamed part hpart).2.append (hnamed part hpart).1 c hc

/-- Plain texts and names between them refer to no other message. -/
theorem noReference_fillWith {parts : Segments} (hfirst : IsPlain parts.first)
    (hnamed : ∀ part ∈ parts.named, IsName part.1 ∧ IsPlain part.2) : NoReference (parts.fillWith bracedName) := by
  apply noReference_of_not_mem
  intro hmem
  rcases List.mem_append.mp hmem with hmem | hmem
  · exact (hfirst _ hmem).2.2 rfl
  · obtain ⟨part, hpart, hmem⟩ := List.mem_flatMap.mp hmem
    rcases List.mem_append.mp hmem with hmem | hmem
    · have hname : '\'' ∉ part.1.toList := (hnamed part hpart).1.not_mem (by decide)
      simp [bracedName, hname] at hmem
    · exact ((hnamed part hpart).2 _ hmem).2.2 rfl

/-- A template with a name in it is not empty. -/
theorem fillWith_bracedName_ne_empty {parts : Segments} (hne : parts.named ≠ []) :
    String.ofList (parts.fillWith bracedName) ≠ "" := by
  obtain ⟨part, named, hparts⟩ := List.exists_cons_of_ne_nil hne
  intro h
  have hnil := congrArg String.toList h
  rw [String.toList_ofList, Segments.fillWith, hparts] at hnil
  simp [bracedName] at hnil

/-- A plain template with a plain value for each of its names is formatted as it is filled. -/
theorem value_formatMessage_fillWith {parts : Segments} (hformatter : c.formatter = .standard)
    (htemplate : c.lookup descriptor.id locale = some (String.ofList (parts.fillWith bracedName)))
    (hne : parts.named ≠ []) (hfirst : IsPlain parts.first)
    (hnamed : ∀ part ∈ parts.named, IsName part.1 ∧ IsPlain part.2)
    (hvalues : ∀ name ∈ parts.named.map Prod.fst, ∃ value, values.get? name = some value ∧ IsPlain value.display.toList) :
    (c.formatMessage descriptor (some values) locale fallback).value = String.ofList (parts.fillWith (shown values)) := by
  have hsegments : segments (parts.fillWith bracedName) = parts :=
    segments_fillWith parts hfirst.noBrace.1 fun part hpart => ⟨(hnamed part hpart).1, (hnamed part hpart).2.noBrace.1⟩
  have hreference : NoReference (String.ofList (parts.fillWith bracedName)).toList := by
    rw [String.toList_ofList]
    exact noReference_fillWith hfirst hnamed
  have hfill : (fill (String.ofList (parts.fillWith bracedName)) (some values) fallback
      (c.resolve locale (maxDepth - 1) [descriptor.id])).value = String.ofList (parts.fillWith (shown values)) := by
    rw [value_fill_of_noReference hreference, String.toList_ofList, fillNames, hsegments]
    rw [String.toList_ofList, hsegments]
    right
    intro name hname
    obtain ⟨value, hget, -⟩ := hvalues name hname
    rw [hget]
    exact Option.some_ne_none value
  have hplain : IsPlain (parts.fillWith (shown values)) := by
    refine isPlain_fillWith hfirst fun part hpart => ⟨(hnamed part hpart).2, ?_⟩
    obtain ⟨value, hget, hvalue⟩ := hvalues part.1 (List.mem_map_of_mem hpart)
    rw [shown, hget]
    exact hvalue
  rw [value_formatMessage htemplate (fillWith_bracedName_ne_empty hne), hfill]
  -- nothing in the filled text means anything to the formatter
  apply value_present_of_ok
  rw [hformatter, format_of_noBrace hplain.noBrace, undouble_of_isPlain hplain]

/-- The values of a plain template are recovered from its message if none is empty, if between two of its names there is
always some text, and if no value, with the text after its name, holds this text before its end. -/
theorem get?_recoverVariables_formatMessage {parts : Segments} (hformatter : c.formatter = .standard)
    (htemplate : c.lookup descriptor.id locale = some (String.ofList (parts.fillWith bracedName)))
    (hne : parts.named ≠ []) (hfirst : IsPlain parts.first)
    (hnamed : ∀ part ∈ parts.named, IsName part.1 ∧ IsPlain part.2)
    (hinner : ∀ text ∈ (parts.named.map Prod.snd).dropLast, text ≠ [])
    (hkeys : ∀ name, name ∈ values.keys ↔ name ∈ parts.named.map Prod.fst)
    (hvalues : ∀ value ∈ values.values, ∃ t, value = .text t ∧ t ≠ "" ∧ IsPlain t.toList)
    (happart : ∀ part ∈ parts.named, part.2 ≠ [] → FirstAfter part.2 (shown values part.1)) (name : String) :
    (c.recoverVariables descriptor.id (c.formatMessage descriptor (some values) locale fallback).value locale).get? name =
      values.get? name := by
  have hget : ∀ n ∈ parts.named.map Prod.fst, ∃ t, values.get? n = some (.text t) ∧ t ≠ "" ∧ IsPlain t.toList := by
    intro n hn
    obtain ⟨value, hvalue⟩ := OrderedMap.mem_keys_iff.mp ((hkeys n).mpr hn)
    obtain ⟨t, rfl, ht⟩ := hvalues value (List.mem_map_of_mem (OrderedMap.get?_eq_some_iff.mp hvalue))
    exact ⟨t, hvalue, ht⟩
  have hmessage : (c.formatMessage descriptor (some values) locale fallback).value =
      String.ofList (parts.fillWith (shown values)) := by
    apply value_formatMessage_fillWith hformatter htemplate hne hfirst hnamed
    intro n hn
    obtain ⟨t, hvalue, -, ht⟩ := hget n hn
    exact ⟨.text t, hvalue, ht⟩
  rw [recoverVariables, htemplate, hmessage]
  refine get?_recover hfirst.noBrace.1 (fun part hpart => ⟨(hnamed part hpart).1, (hnamed part hpart).2.noBrace.1⟩)
    hinner (fun part hpart => ?_) happart (fun n value hvalue => ?_) name
  · obtain ⟨t, hvalue, ht, -⟩ := hget part.1 (List.mem_map_of_mem hpart)
    exact ⟨t, hvalue, ht⟩
  · exact (hkeys n).mp (OrderedMap.mem_keys_iff.mpr ⟨value, hvalue⟩)

namespace RoundTripWitness

/-- A template that holds one of its names twice. -/
def order : Segments where
  first := "Order ".toList
  named := [("order", " ships to ".toList), ("city", " on ".toList), ("day", "; ".toList), ("order", [])]

def shop : Context :=
  .ofCatalogue ⟨.ofList [("en", .ofList [("order", String.ofList (order.fillWith bracedName))])]⟩ "en"

def shipment : Variables := .ofList [("order", .text "#1042"), ("city", .text "Lyon"), ("day", .text "Monday")]

theorem isPlain_shipment : ∀ value ∈ shipment.values, ∃ t, value = .text t ∧ t ≠ "" ∧ IsPlain t.toList := by
  have hvalues : shipment.values = [.text "#1042", .text "Lyon", .text "Monday"] := by decide
  rw [hvalues]
  intro value hvalue
  simp only [List.mem_cons, List.not_mem_nil, or_false] at hvalue
  rcases hvalue with rfl | rfl | rfl
  · exact ⟨_, rfl, by decide, by decide⟩
  · exact ⟨_, rfl, by decide, by decide⟩
  · exact ⟨_, rfl, by decide, by decide⟩

theorem mem_keys_shipment (name : String) : name ∈ shipment.keys ↔ name ∈ order.named.map Prod.fst := by
  have hkeys : shipment.keys ⊆ order.named.map Prod.fst := by decide
  have hnames : order.named.map Prod.fst ⊆ shipment.keys := by decide
  exact ⟨fun h => hkeys h, fun h => hnames h⟩

end RoundTripWitness

open RoundTripWitness in
theorem get?_recoverVariables_formatMessage_order :
    (shop.recoverVariables "order" (shop.formatMessage ⟨"order", none⟩ (some shipment) none none).value none).get?
      "order" = shipment.get? "order" := by
  have htemplate : shop.lookup (Descriptor.mk "order" none).id none = some (String.ofList (order.fillWith bracedName)) := by
    decide
  have happart : ∀ part ∈ order.named, part.2 ≠ [] → FirstAfter part.2 (shown shipment part.1) := by decide
  exact get?_recoverVariables_formatMessage rfl htemplate (by decide) (by decide) (by decide) (by decide)
    mem_keys_shipment isPlain_shipment happart "order"

end Phrasebook.Context
