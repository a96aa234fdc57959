import Conveyance.Proofs.Compiler.Workplace
import Conveyance.Proofs.Desk.Preview
import Conveyance.Proofs.ImageFormat
import Conveyance.Proofs.Typst.Code

/-!
# Proofs/Desk/Letterhead — the image that is read, attached and called for

The image of a letterhead is read where its company says, attached under a name that the desk makes up
and called for by that name in the source.  **Whatever the company says, it is the name of a file other
than the source** (`isFileName_letterheadName`), so it is written beside the source as it stands.  A
program that is started therefore finds the source and the image that it calls for, and nothing else
(`finds_what_source_says`).
-/

namespace Conveyance

namespace FileName

theorem letterheadName_ne_sourceName (path : Text) : letterheadName path ≠ Compiler.sourceName := by
  rw [letterheadName_eq]
  nofun

end FileName

/-! ## The image -/

/-- The call is one for a letterhead, if it comes after the records: it asks for a company, or for an
image. -/
def Call.isForHead : Call → Bool
  | company _ | image _ => true
  | _ => false

/-- The image of a letterhead. -/
def Letterhead.image? : Letterhead → Option Attachment
  | .image a => some a
  | _ => none

/-- What goes with a letterhead is its image. -/
theorem Typst.attachments_eq (letterhead : Letterhead) :
    attachments letterhead = letterhead.image?.toList := by
  cases letterhead <;> rfl

/-- The bytes of an image that was read. -/
def Event.image? : Event → Option (List UInt8)
  | ⟨.image _, .ok bytes⟩ => some bytes
  | _ => none

theorem Event.image?_eq_none {e : Event} (h : ∀ path, e.call ≠ .image path) : e.image? = none := by
  rcases e with ⟨call, reply⟩
  cases call
  case image path => exact absurd rfl (h path)
  all_goals rfl

/-- **The images that were read.** -/
def images (es : List Event) : List (List UInt8) := es.filterMap Event.image?

theorem images_append (es es' : List Event) : images (es ++ es') = images es ++ images es' :=
  List.filterMap_append

/-- **The letterhead carries the image that was read**, under a name made for its path. -/
structure Letterhead.LoadedBy (letterhead : Letterhead) (es : List Event) : Prop where
  read : images es = letterhead.image?.toList.map (·.bytes)
  named : ∀ a ∈ letterhead.image?, ∃ path, a.name = FileName.letterheadName path

theorem Letterhead.loadedBy_of_none {letterhead : Letterhead} {es : List Event}
    (h : letterhead.image? = none) (hes : images es = []) : letterhead.LoadedBy es where
  read := by
    rw [hes, h]
    rfl
  named a ha := by
    rw [h] at ha
    cases ha

namespace Drafting

variable {α β : Type} {allowed : Call → Prop} {x : Drafting α} {f : α → Drafting β}
  {es : List Event} {r : Except DocumentFault β}

/-- An action that reads no image. -/
theorem Makes.images_eq_nil (hx : x.Makes fun c => ∀ path, c ≠ .image path)
    {r : Except DocumentFault α} (h : x.Goes es r) : images es = [] :=
  List.filterMap_eq_nil_iff.2 fun e he => Event.image?_eq_none (hx es r h e he)

/-- A call that is not of the first action is made by the second, after the first has succeeded. -/
theorem Makes.exists_rest (hx : x.Makes allowed) (h : (x >>= f).Goes es r) {e : Event} (he : e ∈ es)
    (hnot : ¬ allowed e.call) :
    ∃ a first rest, x.Goes first (.ok a) ∧ (f a).Goes rest r ∧ es = first ++ rest ∧ e ∈ rest := by
  rcases goes_bind h with ⟨fault, hx', -⟩ | ⟨a, first, rest, hx', hf, rfl⟩
  · exact absurd (hx es _ hx' e he) hnot
  · have hrest := (List.mem_append.1 he).resolve_left fun hfirst => hnot (hx first _ hx' e hfirst)
    exact ⟨a, first, rest, hx', hf, rfl, hrest⟩

/-- The registry is not asked for images. -/
theorem Makes.not_image (hx : x.Makes (·.asksRegistry)) : x.Makes fun c => ∀ path, c ≠ .image path :=
  hx.mono fun c hc path heq => by rw [heq] at hc; cases hc

theorem loadedBy_of_goes_letterheadOf {company : Company} {letterhead : Letterhead}
    (h : (letterheadOf company).Goes es (.ok letterhead)) : letterhead.LoadedBy es := by
  rw [letterheadOf] at h
  rcases hpath : imagePath? company with _ | path <;> rw [hpath] at h
  · obtain ⟨rfl, hlines⟩ := goes_pure h
    obtain rfl := Except.ok.inj hlines
    exact Letterhead.loadedBy_of_none rfl rfl
  · obtain ⟨reply, rfl, hreply⟩ := goes_ask h
    rcases reply with fault | bytes
    · obtain rfl := Except.ok.inj hreply
      exact Letterhead.loadedBy_of_none rfl rfl
    · obtain rfl := Except.ok.inj hreply
      refine ⟨rfl, fun a ha => ⟨path, ?_⟩⟩
      rw [← Option.some.inj ha]

/-- **A letterhead is loaded with its image**; where no company is found it is blank. -/
theorem loadedBy_of_goes_letterhead {request : GenerateRequest} {letterhead : Letterhead}
    (h : (Drafting.letterhead request).Goes es (.ok letterhead)) : letterhead.LoadedBy es := by
  rw [Drafting.letterhead] at h
  rcases hchoice : request.letterhead with _ | _ <;> rw [hchoice] at h
  · obtain ⟨rfl, hblank⟩ := goes_pure h
    obtain rfl := Except.ok.inj hblank
    exact Letterhead.loadedBy_of_none rfl rfl
  · obtain ⟨found, first, rest, hlookup, hrest, rfl⟩ := goes_bind_ok h
    have hfirst : images first = [] := by
      rcases hid : request.headCompany with _ | id <;> rw [hid] at hlookup
      · obtain ⟨rfl, -⟩ := goes_pure hlookup
        rfl
      · obtain ⟨reply, rfl, -⟩ := goes_ask hlookup
        rfl
    rcases found with _ | company
    · obtain ⟨rfl, hblank⟩ := goes_pure hrest
      obtain rfl := Except.ok.inj hblank
      exact Letterhead.loadedBy_of_none rfl (by rw [List.append_nil, hfirst])
    · obtain ⟨hread, hnamed⟩ := loadedBy_of_goes_letterheadOf hrest
      exact ⟨by rw [images_append, hfirst, List.nil_append, hread], hnamed⟩

end Drafting

/-! ## The document -/

/-- **A document is illustrated by an image**, or by none: the source calls for it and for no other, by
a name that can stand beside the source, and a program that is started finds both and nothing else. -/
structure TypstDocument.IllustratedBy (d : TypstDocument) (image? : Option Attachment) : Prop where
  calls : ∃ lexemes, Typst.lex d.source = some lexemes ∧
    Typst.imageCalls lexemes = image?.toList.map (some ·.name)
  named : ∀ a ∈ image?, Path.IsFileName a.name ∧ a.name ≠ Compiler.sourceName
  found : Compiler.Finds d
    ((Compiler.sourceName, Text.utf8 d.source) :: image?.toList.map fun a => (a.name, a.bytes))

/-- **A document is illustrated by its letterhead's image**, where its name can stand beside the source.
-/
theorem Typst.illustratedBy_document (layout : Layout) (letterhead : Letterhead) (blocks : List Block)
    (hname : ∀ a ∈ letterhead.image?, Path.IsFileName a.name ∧ a.name ≠ Compiler.sourceName) :
    (document layout letterhead blocks).IllustratedBy letterhead.image? := by
  have hattachments : (document layout letterhead blocks).attachments = letterhead.image?.toList :=
    attachments_eq letterhead
  refine ⟨?_, hname, ?_⟩
  · rw [← hattachments]
    exact imageCalls_document layout letterhead blocks
  · have hfiles : Compiler.files (document layout letterhead blocks) =
        (Compiler.sourceName, Text.utf8 (document layout letterhead blocks).source) ::
          letterhead.image?.toList.map fun a => (a.name, a.bytes) := by
      rw [Compiler.files, hattachments]
      refine congrArg _ (List.map_congr_left fun a ha => ?_)
      rw [Compiler.attachmentName_eq (hname a (Option.mem_toList.1 ha)).1]
    rw [← hfiles]
    refine Compiler.finds_files ?_
    rw [hfiles]
    rcases himage : letterhead.image? with _ | a
    · simp
    · simpa using (hname a himage).2.symm

namespace Desk

open Drafting

/-- After a letterhead has been loaded no image is read, and no other document is compiled. -/
theorem of_goes_print {desk : Desk} {document : TypstDocument} {name : Text}
    {g : List UInt8 → Generated} {es : List Event} {r : Except DocumentFault Generated}
    (h : (do
      let bytes ← compile document name
      share (desk.objectName name) bytes
      return g bytes : Drafting Generated).Goes es r) :
    images es = [] ∧ ∀ e ∈ es, e.call.isForHead = false ∧
      ∀ name' document', e.call = .compile name' document' → name' = name ∧ document' = document := by
  have hmakes : (do
      let bytes ← compile document name
      share (desk.objectName name) bytes
      return g bytes : Drafting Generated).Makes fun c => c.isForHead = false ∧
        ∀ name' document', c = .compile name' document' → name' = name ∧ document' = document := by
    refine ((makes_compile document name).mono ?_).bind fun bytes =>
      ((makes_share (desk.objectName name) bytes).mono ?_).bind fun _ => makes_pure (g bytes)
    · rw [List.forall_mem_cons, List.forall_mem_cons, List.forall_mem_singleton]
      refine ⟨⟨rfl, nofun⟩, ⟨rfl, ?_⟩, rfl, nofun⟩
      rintro _ _ ⟨⟩
      exact ⟨rfl, rfl⟩
    · rw [List.forall_mem_cons, List.forall_mem_singleton]
      exact ⟨⟨rfl, nofun⟩, rfl, nofun⟩
  refine ⟨(hmakes.mono ?_).images_eq_nil h, hmakes es r h⟩
  rintro c ⟨hc, -⟩ path rfl
  cases hc

/-- **What is compiled stands under the letterhead that was loaded**, whose image is all that was read.
-/
theorem loadedBy_of_goes_generate {desk : Desk} {occasion : Occasion} {r : GenerateRequest}
    {es : List Event} {result : Except DocumentFault Generated}
    (h : (desk.generate occasion r).Goes es result) {name : Text} {document : TypstDocument}
    (hcompile : .compile name document ∈ es.map (·.call)) :
    ∃ letterhead blocks, document = Typst.document desk.layout letterhead blocks ∧
      letterhead.LoadedBy es := by
  obtain ⟨e, he, heq⟩ := List.mem_map.1 hcompile
  have hasks : ¬ e.call.asksRegistry := by
    rw [heq]
    exact Bool.false_ne_true
  have haccept : (accept r.complaints).Makes (·.asksRegistry) := makes_accept _
  obtain ⟨_, accepted, _, haccepted, h₁, rfl, he₁⟩ := haccept.exists_rest h he hasks
  obtain ⟨template, looked, _, hlooked, h₂, rfl, he₂⟩ := (asks_template _).exists_rest h₁ he₁ hasks
  obtain ⟨rendering, gathered, _, hgathered, h₃, rfl, he₃⟩ :=
    (desk.asks_fillIn _ _ _ _).exists_rest h₂ he₂ hasks
  obtain ⟨letterhead, head, rest, hhead, h₄, rfl, he₄⟩ :=
    (makes_letterhead r).exists_rest h₃ he₃ (by simp [heq])
  obtain ⟨hread, hnamed⟩ := loadedBy_of_goes_letterhead hhead
  obtain ⟨hrest, hdocument⟩ := of_goes_print h₄
  refine ⟨letterhead, rendering.blocks, ((hdocument e he₄).2 _ _ heq).2, ?_, hnamed⟩
  rw [images_append, images_append, images_append, images_append,
    haccept.not_image.images_eq_nil haccepted, (asks_template _).not_image.images_eq_nil hlooked,
    (desk.asks_fillIn _ _ _ _).not_image.images_eq_nil hgathered, hrest, hread, List.append_nil]
  rfl

/-- **A compiler finds what the source says**, whatever the records and the files are: when the document
of a request reaches it, the images that were read are the one that illustrates the document, or none. -/
theorem finds_what_source_says (desk : Desk) (occasion : Occasion) (r : GenerateRequest) {σ : Type}
    (answer : (c : Call) → σ → c.Reply × σ) (s : σ) {name : Text} {document : TypstDocument}
    (h : .compile name document ∈ (desk.generate occasion r).run.calls answer s) :
    ∃ letterhead blocks, document = Typst.document desk.layout letterhead blocks ∧
      images ((desk.generate occasion r).run.exchanges answer s) =
        letterhead.image?.toList.map (·.bytes) ∧
      document.IllustratedBy letterhead.image? := by
  rw [← Procedure.map_call_exchanges] at h
  obtain ⟨letterhead, blocks, rfl, hloaded⟩ :=
    loadedBy_of_goes_generate (Procedure.runs_exchanges answer _ s) h
  refine ⟨letterhead, blocks, rfl, hloaded.read, Typst.illustratedBy_document _ _ _ fun a ha => ?_⟩
  obtain ⟨path, hpath⟩ := hloaded.named a ha
  rw [hpath]
  exact ⟨FileName.isFileName_letterheadName path, FileName.letterheadName_ne_sourceName path⟩

/-- One client, one template and a company whose letterhead is an image. -/
def onPaper : Rehearsal where
  records :=
    { oneClient.records with
      companies := [{ id := 2, name := "Kalyan Estates".toList,
                      letterheadPath := some "/paper/Head \"2\".JPG".toList }] }
  files :=
    { entries := [(["paper".toList], .directory),
        (["paper".toList, "Head \"2\".JPG".toList], .file [255, 216] false)] }

/-- The note is compiled under the image, and a program that is started on it finds the source and the
image. -/
theorem finds_what_source_says_note :
    let desk : Desk := { address := id }
    let name := "agreement-note-20240101-000000-n.pdf".toList
    let image : Attachment := { name := "letterhead.jpg".toList, bytes := [255, 216] }
    let document := Typst.document {} (.image image)
      [{ kind := .paragraph, alignment := .left, text := "Asha".toList }]
    let t : FileTree := { entries := [(["tmp".toList], .directory), (["work".toList], .directory)] }
    .compile name document ∈ (desk.generate newYear note).run.calls onPaper.answer none ∧
      (∃ letterhead blocks, document = Typst.document {} letterhead blocks ∧
        images ((desk.generate newYear note).run.exchanges onPaper.answer none) =
          letterhead.image?.toList.map (·.bytes) ∧
        document.IllustratedBy letterhead.image?) ∧
      ∃ ms t', (Compiler.compile "typst".toList document (Path.joined "/work".toList name)).Unfolds
          CompilerCall.May t ms (.ok ()) t' ∧
        ∃ m ∈ ms, Compiler.StartsIn "typst".toList "/tmp/p".toList (Path.joined "/work".toList name)
          [(Compiler.sourceName, Text.utf8 document.source), (image.name, image.bytes)] m := by
  intro desk name image document t
  have h : .compile name document ∈ (desk.generate newYear note).run.calls onPaper.answer none := by
    decide +kernel
  obtain ⟨letterhead, blocks, hdocument, hread, hillustrated⟩ :=
    finds_what_source_says desk newYear note onPaper.answer none h
  refine ⟨h, ⟨letterhead, blocks, hdocument, hread, hillustrated⟩, ?_⟩
  have himage : letterhead.image? = some image := by
    have hattached : [image] = letterhead.image?.toList :=
      (congrArg TypstDocument.attachments hdocument).trans (Typst.attachments_eq letterhead)
    exact (Option.toList_eq_singleton_iff.1 hattached.symm)
  let directory := "/tmp/p".toList
  let place : Location := ["tmp".toList, "p".toList]
  let t₁ := t.put place .directory
  let t₂ := t₁.put (place ++ [Compiler.sourceName]) (.file (Text.utf8 document.source) false)
  let t₃ := t₂.put (place ++ [image.name]) (.file image.bytes false)
  let t₄ := t₃.put ["work".toList, name] (.file [37] false)
  let t₅ := t₄.prune place
  have hnew : t.NewDirectory directory t₁ := FileTree.newDirectory_put <| by
    rintro _ ⟨rest, rfl⟩
    rfl
  have hsource : CompilerCall.May (.file (.write (Path.joined directory Compiler.sourceName)
      (Text.utf8 document.source))) t₁ (.ok ()) t₂ :=
    .written ⟨place, some Compiler.sourceName, false⟩ _ (by decide +kernel) rfl (by decide +kernel)
  have hattachment : CompilerCall.May (.file (.write (Path.joined directory image.name) image.bytes)) t₂
      (.ok ()) t₃ :=
    .written ⟨place, some image.name, false⟩ _ (by decide +kernel) rfl (by decide +kernel)
  have hprinted : t₄.find (Path.joined "/work".toList name) = .ok (.file [37] false) := by
    decide +kernel
  have hdiscard : CompilerCall.May (.discard directory) t₄ () t₅ := by
    have hremoved : t₄.removeAll directory = .ok t₅ := by decide +kernel
    exact .discarded (FileTree.of_removeAll hremoved).1
  have hrun : (Compiler.compile "typst".toList document (Path.joined "/work".toList name)).Unfolds
      CompilerCall.May t _ (.ok ()) t₅ :=
    .call (.given hnew) (.call hsource (.call hattachment
      (.call (.ended _ _ _ _ (.exited 0) t₃ t₄ rfl)
        (.call (.found hprinted) (.call hdiscard (.done _ _))))))
  have hfound := hillustrated.found
  rw [himage] at hfound
  obtain ⟨hstarts, -⟩ := hfound _ _ _ _ _ _ hrun
  obtain ⟨directory', -, hin⟩ := hstarts _ (.tail _ (.tail _ (.tail _ (.head _)))) rfl
  obtain rfl : directory = directory' := by
    cases hin.1
    rfl
  exact ⟨_, _, hrun, _, .tail _ (.tail _ (.tail _ (.head _))), hin⟩

end Desk

end Conveyance
