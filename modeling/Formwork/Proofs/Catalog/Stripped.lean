import Formwork.Catalog.App
import Formwork.Proofs.Idl.Judged

/-!
Descriptions without their block comments. Stripping keeps the class of every character that it
leaves and leaves no block comment, so it does nothing the second time. The file options of a
document are therefore those of its text, and an app has one name in the catalog and in the
manifest.
-/
namespace Formwork.Catalog
open Formwork.Idl

variable {s : Source} {config : CompilerConfig} {e : Entry}

/-- A document that is read has the file options of its text; reading fails on patterns alone. -/
theorem options_read (text : List Char) :
    (Document.read text).map (·.options) =
      unlessFault ((annotatedPatterns text).findSome? stop?) (fileOptions text) := by
  rw [Document.read_eq_judged, ← fileOptions_stripBlockComments]
  cases (annotatedPatterns text).findSome? stop? <;> rfl

theorem options_of_read {text : List Char} {d : Document} (h : Document.read text = .ok d) :
    d.options = fileOptions text := by
  have hoptions := options_read text
  rw [h] at hoptions
  cases hfault : (annotatedPatterns text).findSome? stop? with
  | some f =>
    rw [hfault] at hoptions
    cases hoptions
  | none =>
    rw [hfault] at hoptions
    exact Except.ok.inj hoptions

/-- The app of a manifest is one of the catalog, with the same name. -/
theorem exists_toApp_of_toEntry (h : s.toEntry config = .ok (some e)) :
    ∃ a, s.toApp = .ok a ∧ a.name = e.app.name := by
  obtain ⟨text, ht, h⟩ := bind_eq_ok_iff.1 h
  obtain ⟨d, hd, h⟩ := bind_eq_ok_iff.1 h
  rw [mapError_eq_ok_iff] at hd
  obtain ⟨form, -, rfl⟩ := Option.map_eq_some_iff.1 (Except.ok.inj h)
  refine ⟨_, bind_eq_ok_iff.2 ⟨text, ht, rfl⟩, ?_⟩
  rw [← options_of_read hd]
  rfl

/-- Stripping is a clean pass. No block comment is left, what is left keeps its classes but for the
line feeds of comments, which become code, and a second pass changes nothing; so the options of a
file are the same for whoever reads them. -/
theorem strip_clean (text : List Char) :
    (∀ l ∈ lexemes (stripBlockComments text), l ≠ .blockComment) ∧
      mark (stripBlockComments text) = ((mark text).filter isKept).map unblocked ∧
      stripBlockComments (stripBlockComments text) = stripBlockComments text ∧
      (Document.read text).map (·.options) =
        unlessFault ((annotatedPatterns text).findSome? stop?) (fileOptions text) ∧
      ∀ (s : Source) (config : CompilerConfig) (e : Entry), s.text = .ok text →
        s.toEntry config = .ok (some e) → ∃ a, s.toApp = .ok a ∧ a.name = e.app.name := by
  refine ⟨?_, mark_stripBlockComments text, stripBlockComments_stripBlockComments text,
    options_read text, fun _ _ _ _ => exists_toApp_of_toEntry⟩
  intro l hl
  obtain ⟨x, hx, rfl⟩ := List.mem_map.1 hl
  exact ne_blockComment_of_mem_mark_stripBlockComments hx

/-- Comments around, between and after words, a comment mark in a literal, one in a line comment, and
a comment that is never closed. -/
def remarkedText : String :=
  "/*\n*/option/**/ app_name = \"A /* 1\"; //* x\nmessage M \x7b string a = 1; \x7d /**//* \""

def remarkedFile : Source := ⟨"notes.proto", remarkedText.toList.map fun c => c.toNat.toUInt8⟩

theorem strip_clean_remarkedFile :
    remarkedFile.text = .ok remarkedText.toList ∧
      ∃ e, remarkedFile.toEntry {} = .ok (some e) ∧
        ∃ a, remarkedFile.toApp = .ok a ∧ a.name = e.app.name ∧ a.name = "A /* 1" := by
  have htext : remarkedFile.text = .ok remarkedText.toList := by
    simp only [remarkedFile, remarkedText, String.reduceToList]
    decide +kernel
  have happ : remarkedFile.toApp =
      .ok ⟨"notes", "A /* 1", "A /* 1 application", "notes.proto"⟩ := by
    simp only [remarkedFile, remarkedText, String.reduceToList]
    decide +kernel
  have hentry : ((remarkedFile.toEntry {}).toOption.bind id).isSome = true := by
    simp only [remarkedFile, remarkedText, String.reduceToList]
    decide +kernel
  obtain ⟨e, hread⟩ : ∃ e, remarkedFile.toEntry {} = .ok (some e) := by
    cases hr : remarkedFile.toEntry {} with
    | error f =>
      rw [hr] at hentry
      cases hentry
    | ok found =>
      rw [hr] at hentry
      obtain ⟨e, rfl⟩ := Option.isSome_iff_exists.1 hentry
      exact ⟨e, rfl⟩
  obtain ⟨-, -, -, -, hnames⟩ := strip_clean remarkedText.toList
  obtain ⟨a, ha, hname⟩ := hnames remarkedFile {} e htext hread
  exact ⟨htext, e, hread, a, ha, hname, by rw [happ] at ha; rw [← Except.ok.inj ha]⟩

end Formwork.Catalog
