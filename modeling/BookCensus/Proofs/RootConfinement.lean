import BookCensus.Retrieval.BookRoot
import BookCensus.Proofs.PathResolution

/-!
# Loading stays within the root

A book is loaded in two passes over the file system: the path of its source is
resolved to a location, and the written form of that location is opened again.
Between the two stands one test, whether the location lies within that of the
root, part by part.

* `resolve_eq_ok_iff` and `resolve_eq_outsideRoot_iff` — what passes the test and
  what does not, said by where paths lead (`FileSystem.LeadsTo`);
* `read_text_eq_ok_iff` — opening the written form of a real location reads the
  file that stands there and no other;
* `load_confined` — hence what is loaded is a file within the root, whatever dots
  and links the source goes through; every file there can be loaded; and a source
  is refused as outside exactly when it leads to a place that is.
-/

namespace BookCensus

/-- The bytes of a text in UTF-8. -/
def utf8 (text : String) : List UInt8 :=
  text.toUTF8.data.toList

/-- Bytes are decoded to the text that they are the bytes of. -/
theorem decodeText_eq_ok_iff {bytes : List UInt8} {text : String} :
    decodeText bytes = .ok text ↔ bytes = utf8 text := by
  have hbytes : bytes = utf8 text ↔ ByteArray.mk bytes.toArray = text.toByteArray := by
    rw [utf8, String.toUTF8, ByteArray.ext_iff, ← Array.toList_inj]
  rw [hbytes, decodeText, String.fromUTF8?]
  split
  · next found hfound =>
      split at hfound
      · next hvalid =>
          obtain rfl := Option.some.inj hfound
          rw [Except.ok.injEq, ← String.toByteArray_inj]
          rfl
      · cases hfound
  · next hnone =>
      constructor
      · intro h
        cases h
      · intro h
        rw [h, dif_pos text.isValidUTF8] at hnone
        cases hnone

/-- Reading ends well exactly when the bytes of a text were read. -/
theorem bind_decodeText_eq_ok_iff {read : Except FileFault (List UInt8)} {text : String} :
    read.bind decodeText = .ok text ↔ read = .ok (utf8 text) := by
  cases read with
  | error fault => simp [Except.bind]
  | ok bytes => rw [Except.bind, decodeText_eq_ok_iff, Except.ok.injEq]

namespace FileSystem

variable {fs : FileSystem}

/-- Opening the written form of a real location reads the file that stands there. -/
theorem read_text_eq_ok_iff (hfs : fs.root.isWellNamed = true) {l : Location} (h : fs.IsReal l)
    {bytes : List UInt8} : fs.read l.text = .ok bytes ↔ fs.at? l = some (.file bytes) := by
  rw [read, locate_text hfs h]
  obtain ⟨node, hnode, -⟩ := h
  simp only [bind, Except.bind, hnode]
  cases node <;> simp

/-- A text is read from a real location when the file there has the bytes of the text. -/
theorem readText_eq_ok_iff (hfs : fs.root.isWellNamed = true) {l : Location} (h : fs.IsReal l)
    {text : String} :
    (fs.read l.text).bind decodeText = .ok text ↔ fs.at? l = some (.file (utf8 text)) := by
  rw [bind_decodeText_eq_ok_iff, read_text_eq_ok_iff hfs h]

end FileSystem

namespace BookRoot

variable {fs : FileSystem} {b : BookRoot} {id : String}

/-! ## What a value of a file system answers -/

/-- Resolving a source in a file system that is a value. -/
theorem resolve_eq (fs : FileSystem) (b : BookRoot) (id : String) :
    Id.run (b.resolve fs.access id) =
      match fs.locate b.path with
      | .error fault => .error (.unreadable b.path fault)
      | .ok root =>
          match fs.locate (Path.join root.text id) with
          | .error .notFound => .error (.notFound id)
          | .error fault => .error (.unreadable (Path.join root.text id) fault)
          | .ok place =>
              if root.isWithin place then .ok place else .error (.outsideRoot id root.text) := by
  simp only [resolve, FileSystem.access, Id.run, bind, pure]
  cases fs.locate b.path with
  | error fault => rfl
  | ok root =>
      simp only
      cases fs.locate (Path.join root.text id) with
      | error fault => cases fault <;> rfl
      | ok place => cases root.isWithin place <;> rfl

/-- Checking a size in a file system that is a value. -/
theorem checkSize_eq (fs : FileSystem) (b : BookRoot) (id path : String) :
    Id.run (b.checkSize fs.access id path) =
      match b.limit with
      | none => .ok ()
      | some limit =>
          match fs.size path with
          | .error fault => .error (.unreadable path fault)
          | .ok size => if limit < size then .error (.tooLarge id size limit) else .ok () := by
  rw [checkSize]
  cases b.limit with
  | none => rfl
  | some limit =>
      simp only [FileSystem.access, Id.run, bind, pure]
      cases fs.size path with
      | error fault => rfl
      | ok size => rfl

/-- Loading a book in a file system that is a value. -/
theorem load_eq (fs : FileSystem) (b : BookRoot) (id : String) :
    Id.run (b.load fs.access id) =
      match Id.run (b.resolve fs.access id) with
      | .error e => .error e
      | .ok place =>
          match Id.run (b.checkSize fs.access id place.text) with
          | .error e => .error e
          | .ok () =>
              match (fs.read place.text).bind decodeText with
              | .error fault => .error (.unreadable place.text fault)
              | .ok text => .ok (Html.parse text) := by
  simp only [load, Id.run, bind]
  cases b.resolve fs.access id with
  | error e => rfl
  | ok place =>
      simp only
      cases b.checkSize fs.access id place.text with
      | error e => rfl
      | ok u =>
          simp only [FileAccess.readText, FileSystem.access, bind, pure]
          cases (fs.read place.text).bind decodeText <;> rfl

/-! ## The test -/

/-- The root leads to one location, and the source, joined to the written form of
that, to another. -/
structure Reaches (b : BookRoot) (fs : FileSystem) (id : String) (root place : Location) :
    Prop where
  rootLeads : fs.LeadsTo b.path root
  sourceLeads : fs.LeadsTo (Path.join root.text id) place

/-- Where root and source lead somewhere, the test alone decides. -/
theorem resolve_of_reaches {root place : Location} (h : b.Reaches fs id root place) :
    Id.run (b.resolve fs.access id)
      = if root.isWithin place then .ok place else .error (.outsideRoot id root.text) := by
  have hroot := FileSystem.locate_eq_ok_iff.mpr h.rootLeads
  have hsource := FileSystem.locate_eq_ok_iff.mpr h.sourceLeads
  rw [resolve_eq, hroot]
  simp only [hsource]

/-- A location lies within another one when it begins with that. -/
theorem isWithin_iff {root place : Location} : root.isWithin place = true ↔ root <+: place :=
  List.isPrefixOf_iff_prefix

/-- How resolving a source ends: at what it reaches within the root, or with that
being outside, or it reaches nothing. -/
inductive Resolution (b : BookRoot) (fs : FileSystem) (id : String) :
    Except RetrievalError Location → Prop
  | within {root place : Location} (h : b.Reaches fs id root place) (hwithin : root <+: place) :
      Resolution b fs id (.ok place)
  | outside {root place : Location} (h : b.Reaches fs id root place)
      (houtside : ¬ root <+: place) : Resolution b fs id (.error (.outsideRoot id root.text))
  | missing (h : ¬ ∃ root place, b.Reaches fs id root place) :
      Resolution b fs id (.error (.notFound id))
  | unreadable (path : String) (fault : FileFault)
      (h : ¬ ∃ root place, b.Reaches fs id root place) :
      Resolution b fs id (.error (.unreadable path fault))

/-- **All cases.**  Resolving ends in one of these ways. -/
theorem resolution_resolve (b : BookRoot) (fs : FileSystem) (id : String) :
    b.Resolution fs id (Id.run (b.resolve fs.access id)) := by
  by_cases hreaches : ∃ root place, b.Reaches fs id root place
  · obtain ⟨root, place, h⟩ := hreaches
    rw [resolve_of_reaches h]
    split
    · next hwithin => exact .within h (isWithin_iff.mp hwithin)
    · next houtside => exact .outside h fun hpre => houtside (isWithin_iff.mpr hpre)
  · rw [resolve_eq]
    cases hroot : fs.locate b.path with
    | error fault => exact .unreadable _ _ hreaches
    | ok root =>
        simp only
        cases hsource : fs.locate (Path.join root.text id) with
        | error fault =>
            cases fault with
            | notFound => exact .missing hreaches
            | _ => exact .unreadable _ _ hreaches
        | ok place =>
            exact absurd ⟨root, place, FileSystem.locate_eq_ok_iff.mp hroot,
              FileSystem.locate_eq_ok_iff.mp hsource⟩ hreaches

/-- A source resolves to what it reaches within the root. -/
theorem resolve_eq_ok_iff {place : Location} :
    Id.run (b.resolve fs.access id) = .ok place ↔
      ∃ root, b.Reaches fs id root place ∧ root <+: place := by
  constructor
  · intro h
    have hcases := b.resolution_resolve fs id
    rw [h] at hcases
    cases hcases with
    | within hreaches hwithin => exact ⟨_, hreaches, hwithin⟩
  · rintro ⟨root, hreaches, hwithin⟩
    rw [resolve_of_reaches hreaches, if_pos (isWithin_iff.mpr hwithin)]

/-- A source is refused as outside when it reaches something that is not within the
root. -/
theorem resolve_eq_outsideRoot_iff {source rootText : String} :
    Id.run (b.resolve fs.access id) = .error (.outsideRoot source rootText) ↔
      source = id ∧ ∃ root place, rootText = root.text ∧ b.Reaches fs id root place ∧
        ¬ root <+: place := by
  constructor
  · intro h
    have hcases := b.resolution_resolve fs id
    rw [h] at hcases
    cases hcases with
    | outside hreaches houtside => exact ⟨rfl, _, _, rfl, hreaches, houtside⟩
  · rintro ⟨rfl, root, place, rfl, hreaches, houtside⟩
    rw [resolve_of_reaches hreaches, if_neg fun h => houtside (isWithin_iff.mp h)]

/-! ## Loading -/

/-- Looking at the size of a file does not complain about where it is. -/
theorem checkSize_ne_outsideRoot (path source rootText : String) :
    Id.run (b.checkSize fs.access id path) ≠ .error (.outsideRoot source rootText) := by
  rw [checkSize_eq]
  cases b.limit with
  | none => exact nofun
  | some limit =>
      simp only
      cases fs.size path with
      | error fault => exact nofun
      | ok size =>
          simp only
          split <;> exact nofun

/-- Only resolving refuses a source as outside. -/
theorem load_eq_outsideRoot_iff {source rootText : String} :
    Id.run (b.load fs.access id) = .error (.outsideRoot source rootText) ↔
      Id.run (b.resolve fs.access id) = .error (.outsideRoot source rootText) := by
  rw [load_eq]
  cases hresolve : Id.run (b.resolve fs.access id) with
  | error e => simp only [Except.error.injEq]
  | ok place =>
      constructor
      · intro h
        simp only at h
        split at h
        · next e hsize =>
            obtain rfl := Except.error.inj h
            exact absurd hsize (checkSize_ne_outsideRoot place.text source rootText)
        · split at h <;> cases h
      · intro h
        cases h

/-- What is loaded is the text of the file where the source resolves to. -/
theorem exists_file_of_load (hfs : fs.root.isWellNamed = true) {tree : Document.Tree}
    (h : Id.run (b.load fs.access id) = .ok tree) :
    ∃ root place text, b.Reaches fs id root place ∧ root <+: place ∧
      fs.at? place = some (.file (utf8 text)) ∧ tree = Html.parse text := by
  rw [load_eq] at h
  split at h
  · cases h
  · next place hplace =>
      obtain ⟨root, hreaches, hwithin⟩ := resolve_eq_ok_iff.mp hplace
      split at h
      · cases h
      · split at h
        · cases h
        · next text htext =>
            obtain rfl := Except.ok.inj h
            exact ⟨root, place, text, hreaches, hwithin,
              (FileSystem.readText_eq_ok_iff hfs hreaches.sourceLeads.isReal).mp htext, rfl⟩

/-- A text that stands within the root is loaded, when no limit is set. -/
theorem load_of_reaches (hfs : fs.root.isWellNamed = true) (hlimit : b.limit = none)
    {root place : Location} {text : String} (h : b.Reaches fs id root place)
    (hwithin : root <+: place) (hfile : fs.at? place = some (.file (utf8 text))) :
    Id.run (b.load fs.access id) = .ok (Html.parse text) := by
  rw [load_eq, resolve_eq_ok_iff.mpr ⟨root, h, hwithin⟩]
  simp only [checkSize_eq, hlimit]
  rw [(FileSystem.readText_eq_ok_iff hfs h.sourceLeads.isReal).mpr hfile]

/-- **Confinement.**  What is loaded is the text of a file that stands within the
root: the source leads to its location, which is that of the root or begins with
it part by part, and on the way down to it from `/` there are only directories.
The other way round, a text within the root that the source leads to is loaded,
when no limit is set.  And a source is refused as outside exactly when it leads
to something that does not stand within the root. -/
theorem load_confined (fs : FileSystem) (hfs : fs.root.isWellNamed = true) (b : BookRoot)
    (id : String) :
    (∀ tree, Id.run (b.load fs.access id) = .ok tree →
      ∃ root place text, fs.LeadsTo b.path root ∧ fs.LeadsTo (Path.join root.text id) place ∧
        fs.IsReal root ∧ root <+: place ∧ fs.at? place = some (.file (utf8 text)) ∧
        tree = Html.parse text) ∧
    (∀ root place text, b.limit = none → fs.LeadsTo b.path root →
      fs.LeadsTo (Path.join root.text id) place → root <+: place →
      fs.at? place = some (.file (utf8 text)) →
      Id.run (b.load fs.access id) = .ok (Html.parse text)) ∧
    (∀ source rootText,
      Id.run (b.load fs.access id) = .error (.outsideRoot source rootText) ↔
        source = id ∧ ∃ root place, rootText = root.text ∧ fs.LeadsTo b.path root ∧
          fs.LeadsTo (Path.join root.text id) place ∧ fs.IsReal place ∧ ¬ root <+: place) := by
  refine ⟨?_, ?_, ?_⟩
  · intro tree h
    obtain ⟨root, place, text, hreaches, hwithin, hfile, htree⟩ := exists_file_of_load hfs h
    exact ⟨root, place, text, hreaches.rootLeads, hreaches.sourceLeads,
      hreaches.rootLeads.isReal, hwithin, hfile, htree⟩
  · intro root place text hlimit hroot hsource hwithin hfile
    exact load_of_reaches hfs hlimit ⟨hroot, hsource⟩ hwithin hfile
  · intro source rootText
    rw [load_eq_outsideRoot_iff, resolve_eq_outsideRoot_iff]
    constructor
    · rintro ⟨hid, root, place, htext, h, houtside⟩
      exact ⟨hid, root, place, htext, h.rootLeads, h.sourceLeads, h.sourceLeads.isReal, houtside⟩
    · rintro ⟨hid, root, place, htext, hroot, hsource, -, houtside⟩
      exact ⟨hid, root, place, htext, ⟨hroot, hsource⟩, houtside⟩

/-- Two directories side by side, the name of one being the beginning of that of
the other, and a link in the first. -/
def neighbours : FileSystem where
  entries :=
    [("srv", .directory
      [("books", .directory [("a.html", .file (utf8 "<p>a")), ("latest", .link "./a.html")]),
       ("books-secret", .directory [("b.html", .file (utf8 "<p>b"))])])]
  current := ["srv"]

/-- The way to the root in this file system. -/
theorem neighbours_leadsTo_books : neighbours.LeadsTo "books" ["srv", "books"] := by
  refine ⟨by decide, by decide, 0, by decide, ?_⟩
  rw [show FileSystem.steps "books" = ["books"] by decide +kernel]
  exact .enter (by decide) rfl nofun (.here _)

/-- A way out of it, to a directory whose name begins alike. -/
theorem neighbours_leadsTo_secret :
    neighbours.LeadsTo "/srv/books/../books-secret/b.html" ["srv", "books-secret", "b.html"] := by
  refine ⟨by decide, by decide, 0, by decide, ?_⟩
  rw [show FileSystem.steps "/srv/books/../books-secret/b.html"
    = ["srv", "books", "..", "books-secret", "b.html"] by decide +kernel]
  exact .enter (by decide) rfl nofun <| .enter (by decide) rfl nofun <| .up rfl <|
    .enter (by decide) rfl nofun <| .enter (by decide) rfl nofun <| .here _

/-- A way that follows a link and stays within it. -/
theorem neighbours_leadsTo_latest :
    neighbours.LeadsTo "/srv/books/latest" ["srv", "books", "a.html"] := by
  refine ⟨by decide, by decide, 1, by decide, ?_⟩
  rw [show FileSystem.steps "/srv/books/latest" = ["srv", "books", "latest"] by decide +kernel]
  refine .enter (by decide) rfl nofun <| .enter (by decide) rfl nofun <|
    .follow rfl (by decide) (by decide) (by decide) rfl ?_
  rw [show FileSystem.steps "./a.html" = [".", "a.html"] by decide +kernel]
  exact .stay rfl <| .enter (by decide) rfl nofun <| .here _

/-- A link within the root is followed, and the directory beside it is outside. -/
theorem load_confined_neighbours :
    neighbours.root.isWellNamed = true ∧
      Id.run (BookRoot.load neighbours.access ⟨"books", none⟩ "latest")
        = .ok (Html.parse "<p>a") ∧
      Id.run (BookRoot.load neighbours.access ⟨"books", none⟩ "../books-secret/b.html")
        = .error (.outsideRoot "../books-secret/b.html" "/srv/books") := by
  have hnamed : neighbours.root.isWellNamed = true := by decide +kernel
  obtain ⟨-, hinside, -⟩ := load_confined neighbours hnamed ⟨"books", none⟩ "latest"
  obtain ⟨-, -, houtside⟩ :=
    load_confined neighbours hnamed ⟨"books", none⟩ "../books-secret/b.html"
  refine ⟨hnamed, ?_, ?_⟩
  · exact hinside ["srv", "books"] ["srv", "books", "a.html"] "<p>a" rfl
      neighbours_leadsTo_books neighbours_leadsTo_latest (by decide) rfl
  · exact (houtside _ _).mpr ⟨rfl, ["srv", "books"], ["srv", "books-secret", "b.html"], by decide,
      neighbours_leadsTo_books, neighbours_leadsTo_secret, neighbours_leadsTo_secret.isReal,
      by decide⟩

end BookRoot

end BookCensus
