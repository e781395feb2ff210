import UnitLint.Proofs.Json.Respacing
import UnitLint.Proofs.Registry.Directory
import UnitLint.Proofs.Text.Endings
import UnitLint.Proofs.Text.Spans

/-!
# Endings of lines in both tables

How the lines of the tables are ended makes no difference, nor whether the last of them is. In the
text of a catalog a line feed can only be white space, and so can a carriage return: none of the two
may stand in a string. The record table is read by its lines, of which an empty one is no record.
-/

namespace UnitLint

open Json

/-! ## Other white space in a catalog -/

section Respacing

variable {respace : Char → List Char} (h : IsRespacing respace)
include h

namespace Keyword

variable {keyword : Keyword}

theorem NameOnce.respaced {members : List Member}
    (hmembers : ∀ member ∈ members, member.IsWritten) (honce : NameOnce members) :
    NameOnce (members.map (·.respaced respace)) := by
  intro field
  rw [List.pairwise_map]
  refine (honce field).imp_of_mem ?_
  intro first second hfirst hsecond hapart
  rw [h.name (hmembers first hfirst).name, h.name (hmembers second hsecond).name]
  exact hapart

theorem IsSaidBy.respaced {members : List Member} (hmembers : ∀ member ∈ members, member.IsWritten)
    (hsaid : keyword.IsSaidBy members) : keyword.IsSaidBy (members.map (·.respaced respace)) := by
  constructor
  · intro field
    refine List.forall_mem_map.2 fun member hmem hname => ?_
    rw [h.name (hmembers member hmem).name] at hname
    exact h.nullable (hsaid.said field member hmem hname)
  · intro field hnot
    refine hsaid.unsaid field fun member hmem hname => ?_
    rw [← h.name (hmembers member hmem).name] at hname
    exact hnot _ (List.mem_map_of_mem hmem) hname

theorem IsToldByMembers.respaced {members : List Member}
    (hmembers : ∀ member ∈ members, member.IsWritten) (htold : keyword.IsToldByMembers members) :
    keyword.IsToldByMembers (members.map (·.respaced respace)) := by
  obtain ⟨hnamed, honce, hsaid⟩ := htold
  refine ⟨List.forall_mem_map.2 fun member hmem => ?_, honce.respaced h hmembers,
    hsaid.respaced h hmembers⟩
  rw [h.name (hmembers member hmem).name]
  exact hnamed member hmem

theorem SpellsList.respaced {form : List Char} (hform : keyword.SpellsList form) :
    keyword.SpellsList (form.flatMap respace) := by
  obtain @⟨given, dropped, spacing, hall, hdropped, hspacing, hspaced, hgiven⟩ := hform
  have hfields : (given.map fun item => (item.1, item.2.respaced respace)).map Prod.fst =
      given.map Prod.fst := by
    rw [List.map_map]
    rfl
  have hitems : (given.map fun item => (item.1, item.2.respaced respace)).map Prod.snd =
      (given.map Prod.snd).map (·.respaced respace) := by
    rw [List.map_map, List.map_map]
    rfl
  rw [h.listText, ← hitems]
  refine .list (hfields.symm ▸ hall) hdropped (h.isSpacing hspacing) ?_ ?_
  · exact List.forall_mem_map.2 fun item hitem => h.isSpaced (hspaced item hitem)
  · exact List.forall_mem_map.2 fun item hitem => h.nullable (hgiven item hitem)

theorem IsToldBy.respaced {form : List Char} (hform : keyword.IsToldBy form) :
    keyword.IsToldBy (form.flatMap respace) := by
  cases hform with
  | object hspacing hmembers htold =>
    rw [h.objectText]
    refine .object (h.isSpacing hspacing) ?_ (htold.respaced h hmembers)
    exact List.forall_mem_map.2 fun member hmem => h.isWritten (hmembers member hmem)
  | list hform => exact .list (hform.respaced h)

end Keyword

namespace Json

variable {α : Type} {tells : α → List Char → Prop}
  (htells : ∀ ⦃value form⦄, tells value form → tells value (form.flatMap respace))
include htells

theorem TellsPair.respaced {member : Member} {pair : String × α}
    (hpair : TellsPair tells member pair) : TellsPair tells (member.respaced respace) pair := by
  obtain ⟨hname, hvalue⟩ := hpair
  refine ⟨?_, htells hvalue⟩
  rw [h.name hname.isQuoted]
  exact hname

/-- Pairs are told with other white space as well if their values are. -/
theorem TellsPairs.respaced {pairs : List (String × α)} {form : List Char}
    (hform : TellsPairs tells pairs form) : TellsPairs tells pairs (form.flatMap respace) := by
  obtain ⟨hspacing, hmembers, hpairs⟩ := hform
  rw [h.objectText]
  refine .object (h.isSpacing hspacing) ?_ ?_
  · exact List.forall_mem_map.2 fun member hmem => h.isWritten (hmembers member hmem)
  · rw [List.forall₂_map_left_iff]
    exact hpairs.imp fun member pair hpair => hpair.respaced h htells

end Json

/-- A listing is told with other white space as well. -/
theorem Listing.IsToldBy.respaced {listing : Listing} {text : String}
    (htold : listing.IsToldBy text) :
    listing.IsToldBy (String.ofList (text.toList.flatMap respace)) := by
  obtain ⟨hbefore, hform, hbehind, htext⟩ := htold
  have hrespaced := hform.respaced h fun _ _ hsection =>
    hsection.respaced h fun _ _ hkeyword => hkeyword.respaced h
  refine .text (h.isSpacing hbefore) hrespaced (h.isSpacing hbehind) ?_
  rw [String.toList_ofList, htext, List.flatMap_append, List.flatMap_append]

end Respacing

/-! ## Endings in a catalog -/

theorem isRespacing_addReturn : IsRespacing Text.addReturn := by
  constructor
  · intro c hc
    rw [Text.addReturn, if_neg]
    rintro rfl
    contradiction
  · intro c hc
    rw [Text.addReturn]
    split
    · decide
    · exact .cons hc .nil

/-- No character in the place of a carriage return, and any other character as it is. -/
def withoutReturn (c : Char) : List Char :=
  if c = '\r' then [] else [c]

theorem isRespacing_withoutReturn : IsRespacing withoutReturn := by
  constructor
  · intro c hc
    rw [withoutReturn, if_neg]
    rintro rfl
    contradiction
  · intro c hc
    rw [withoutReturn]
    split
    · exact .nil
    · exact .cons hc .nil

/-- To take all carriage returns away is to take away those that have been added. -/
theorem flatMap_withoutReturn {cs : List Char} (h : '\r' ∉ cs) :
    (cs.flatMap Text.addReturn).flatMap withoutReturn = cs := by
  induction cs with
  | nil => rfl
  | cons c cs ih =>
    obtain ⟨hc, hcs⟩ := List.ne_and_not_mem_of_not_mem_cons h
    have hback : (Text.addReturn c).flatMap withoutReturn = [c] := by
      rw [Text.addReturn]
      split
      · next hnewline =>
        rw [hnewline]
        rfl
      · rw [List.flatMap_singleton, withoutReturn, if_neg hc.symm]
    rw [List.flatMap_cons, List.flatMap_append, hback, ih hcs, List.singleton_append]

/-- An object does not end in white space. -/
theorem Json.TellsPairs.rdropWhile_append {α : Type} {tells : α → List Char → Prop}
    {pairs : List (String × α)} {form : List Char} (h : TellsPairs tells pairs form)
    (before : List Char) : (before ++ form).rdropWhile isSpace = before ++ form := by
  obtain @⟨spacing, members, -, -, -⟩ := h
  rw [objectText, ← List.append_assoc spacing, ← List.cons_append, ← List.append_assoc]
  exact List.rdropWhile_concat_neg isSpace _ '\x7d' (by decide)

namespace Listing

variable {listing : Listing} {text : String}

/-- White space at the end of a text has no part in what is told: whatever tells a listing ends in
the closing mark of an object, so what is behind that mark can be told from the text alone. -/
theorem isToldBy_append_iff {ending : String} (hending : IsSpacing ending.toList) :
    listing.IsToldBy (text ++ ending) ↔ listing.IsToldBy text := by
  have hspace {cs : List Char} (hcs : IsSpacing cs) : ∀ c ∈ cs, isSpace c := by
    intro c hc
    exact (isSpace_iff c).2 (hcs c hc)
  constructor
  · rintro @⟨before, form, behind, hbefore, hform, hbehind, htext⟩
    have hclosed : (before ++ form).rdropWhile isSpace = before ++ form :=
      hform.rdropWhile_append before
    have hcut : text.toList.rdropWhile isSpace = before ++ form := by
      rw [← Text.rdropWhile_append_span (hspace hending), ← String.toList_append, htext,
        ← List.append_assoc, Text.rdropWhile_append_span (hspace hbehind), hclosed]
    have hleft : IsSpacing (text.toList.rtakeWhile isSpace) := by
      intro c hc
      exact (isSpace_iff c).1 (List.mem_rtakeWhile_imp hc)
    refine .text hbefore hform hleft ?_
    rw [← List.append_assoc, ← hcut, List.rdropWhile_append_rtakeWhile]
  · rintro ⟨hbefore, hform, hbehind, htext⟩
    refine .text hbefore hform (hbehind.append hending) ?_
    rw [String.toList_append, htext, List.append_assoc, List.append_assoc]

theorem isToldBy_withReturns_iff (h : '\r' ∉ text.toList) :
    listing.IsToldBy (Text.withReturns text) ↔ listing.IsToldBy text := by
  constructor
  · intro htold
    have hback := htold.respaced isRespacing_withoutReturn
    rwa [Text.withReturns, String.toList_ofList, flatMap_withoutReturn h, String.ofList_toList]
      at hback
  · intro htold
    exact htold.respaced isRespacing_addReturn

theorem isToldBy_form_iff (h : '\r' ∉ text.toList) {form : String}
    (hform : form ∈ [text, Text.withReturns text]) :
    listing.IsToldBy form ↔ listing.IsToldBy text := by
  obtain rfl | hform := List.mem_cons.1 hform
  · exact Iff.rfl
  · obtain rfl := List.mem_singleton.1 hform
    exact isToldBy_withReturns_iff h

/-- A text that is ended in another way tells the same listing. -/
theorem isToldBy_relined_iff (h : '\r' ∉ text.toList) {relined : String}
    (hrelined : Text.IsRelined text relined) :
    listing.IsToldBy relined ↔ listing.IsToldBy text := by
  cases hrelined with
  | kept hform => exact isToldBy_form_iff h hform
  | closed hform hending =>
    have hspacing : ∀ ending ∈ ["\n", "\r\n"], IsSpacing ending.toList := by decide
    rw [isToldBy_append_iff (hspacing _ hending), isToldBy_form_iff h hform]
  | @opened body form hform =>
    rw [String.toList_append, List.mem_append, not_or] at h
    have hspacing : IsSpacing "\n".toList := by decide
    rw [isToldBy_form_iff h.1 hform, isToldBy_append_iff hspacing]

end Listing

/-! ## Both tables -/

/-- An empty line is no record, so a table that is ended in another way is the same table. -/
theorem RecordTable.ofText_relined {text relined : String} (h : '\r' ∉ text.toList)
    (hrelined : Text.IsRelined text relined) : ofText relined = ofText text := by
  have hempty : Record.ofLine? "" = none := by decide
  rw [ofText, recordsOf, hrelined.filterMap_lines h hempty, ofText, recordsOf]

namespace Registry

/-- Whether two attempts to build a registry come to the same: to one and the same registry, or to
errors of one kind. -/
inductive SameOutcome : Except LoadError Registry → Except LoadError Registry → Prop where
  | loaded (registry : Registry) : SameOutcome (.ok registry) (.ok registry)
  | malformed (error error' : Json.Error) :
      SameOutcome (.error (.catalog error)) (.error (.catalog error'))
  | noSections : SameOutcome (.error .noSections) (.error .noSections)

theorem SameOutcome.eq_ok {registry : Registry} {outcome : Except LoadError Registry}
    (h : SameOutcome (.ok registry) outcome) : outcome = .ok registry := by
  cases h
  rfl

/-- It makes no difference to the outcome how the lines of either table are ended, with a line feed
or with a carriage return before it, or whether the last one is ended. -/
theorem ofSource_relined {source relined : Source} (hcatalog : '\r' ∉ source.catalogText.toList)
    (hrecord : '\r' ∉ source.recordText.toList)
    (hcatalogText : Text.IsRelined source.catalogText relined.catalogText)
    (hrecordText : Text.IsRelined source.recordText relined.recordText)
    (hlibrary : relined.library = source.library) :
    SameOutcome (ofSource source).value (ofSource relined).value := by
  have htold (listing : Listing) :
      listing.IsToldBy relined.catalogText ↔ listing.IsToldBy source.catalogText :=
    Listing.isToldBy_relined_iff hcatalog hcatalogText
  by_cases hnone : ∀ listing : Listing, ¬listing.IsToldBy source.catalogText
  · obtain ⟨error, herror⟩ := exists_catalog_error_iff.2 hnone
    obtain ⟨error', herror'⟩ := exists_catalog_error_iff.2 fun listing hlisting =>
      hnone listing ((htold listing).1 hlisting)
    rw [herror, herror']
    exact .malformed error error'
  · obtain ⟨listing, hlisting⟩ := not_forall_not.1 hnone
    have hlisting' := (htold listing).2 hlisting
    by_cases hempty : listing = []
    · subst hempty
      rw [value_ofSource_eq_noSections_iff.2 hlisting, value_ofSource_eq_noSections_iff.2 hlisting']
      exact .noSections
    · have hrecords := RecordTable.ofText_relined hrecord hrecordText
      rw [value_ofSource_eq_ok_iff.2 ⟨listing, hempty, hlisting, rfl⟩,
        value_ofSource_eq_ok_iff.2 ⟨listing, hempty, hlisting', rfl⟩, hrecords, hlibrary]
      exact .loaded _

/-- What looks like a record has nothing behind its second comma but the ending of the line, so it
is none, whether or not a carriage return belongs to that ending. -/
theorem ofSource_relined_returns :
    ∃ registry, (ofSource (.ofTexts ("\x7b\"Unit\":\x7b\x7d\x7d" ++ "\r\n")
        "Unit.A,v,\r\nUnit.B,w,0")).value = .ok registry ∧
      registry.validatorName? ⟨"Unit", "A"⟩ = none ∧
      registry.validatorName? ⟨"Unit", "B"⟩ = some "w" := by
  have hcatalog : Text.IsRelined "\x7b\"Unit\":\x7b\x7d\x7d"
      ("\x7b\"Unit\":\x7b\x7d\x7d" ++ "\r\n") :=
    .closed List.mem_cons_self (by decide)
  have hrecord : Text.IsRelined "Unit.A,v,\nUnit.B,w,0" "Unit.A,v,\r\nUnit.B,w,0" :=
    .kept (by decide)
  have hsame : SameOutcome (ofSource (.ofTexts _ _)).value (ofSource (.ofTexts _ _)).value :=
    ofSource_relined (by decide) (by decide) hcatalog hrecord rfl
  rw [value_ofSource_bare] at hsame
  exact ⟨_, hsame.eq_ok, by decide +kernel, by decide +kernel⟩

end Registry

end UnitLint
