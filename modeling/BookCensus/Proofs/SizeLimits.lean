import BookCensus.Proofs.RootConfinement

/-!
# Limits on the size of a book

A limit is looked at between two steps of loading a book: after the source has been resolved
and found within the root, and before anything is read.

So it does not change how a source resolves (`resolve_limit`), and what is refused there is
refused in the same way under every limit (`load_of_unresolved`).  A source that resolves is a
directory or a file.  Of a file, the size that is asked for is the number of its bytes
(`FileSystem.size_text`), and the limit decides by that number alone whether loading goes on
as without a limit (`load_of_isSource`).

`load_limited` says what this makes of the answers.
-/

namespace BookCensus

/-- Bytes that are those of no text are not decoded. -/
theorem decodeText_of_ne {bytes : List UInt8} (h : ∀ text, bytes ≠ utf8 text) :
    decodeText bytes = .error .notUtf8 := by
  cases hread : decodeText bytes with
  | ok text => exact absurd (decodeText_eq_ok_iff.mp hread) (h text)
  | error fault =>
      rw [decodeText] at hread
      split at hread
      · cases hread
      · exact hread.symm

namespace FileSystem

variable {fs : FileSystem} {l : Location} {bytes : List UInt8}

/-- Opening the written form of a real location finds the size of the file there. -/
theorem size_text (hfs : fs.root.isWellNamed = true) (h : fs.IsReal l)
    (hfile : fs.at? l = some (.file bytes)) : fs.size l.text = .ok bytes.length := by
  rw [size, locate_text hfs h]
  simp only [bind, Except.bind, hfile]

end FileSystem

namespace BookRoot

/-- What is answered when a source is loaded from below a directory, with a limit or
without. -/
def answer (fs : FileSystem) (path id : String) (limit : Option Nat) :
    Except RetrievalError Document.Tree :=
  Id.run (load fs.access ⟨path, limit⟩ id)

/-- A source leads to a place, from the root that a path leads to. -/
def SourceLeadsTo (fs : FileSystem) (path id : String) (root place : Location) : Prop :=
  fs.LeadsTo path root ∧ fs.LeadsTo (Path.join root.text id) place

/-- A source is a file with these bytes, which stands within the root. -/
def IsSource (fs : FileSystem) (path id : String) (bytes : List UInt8) : Prop :=
  ∃ root place, SourceLeadsTo fs path id root place ∧ root <+: place ∧
    fs.at? place = some (.file bytes)

variable {fs : FileSystem} {path id : String} {bytes : List UInt8}

/-- How a source resolves does not depend on the limit. -/
theorem resolve_limit (limit limit' : Option Nat) :
    Id.run (resolve fs.access ⟨path, limit⟩ id) = Id.run (resolve fs.access ⟨path, limit'⟩ id) := by
  rw [resolve_eq, resolve_eq]

/-- What is refused on the way is refused whatever the limit. -/
theorem load_of_unresolved {e : RetrievalError}
    (h : Id.run (resolve fs.access ⟨path, none⟩ id) = .error e) (limit : Option Nat) :
    answer fs path id limit = .error e := by
  rw [answer, load_eq, resolve_limit limit none, h]

/-- A source that resolves is a file within the root, unless it leads to a directory. -/
theorem unresolved_or_isSource
    (hplain : ∀ root place, SourceLeadsTo fs path id root place → ¬ fs.DirectoryAt place) :
    (∃ e, Id.run (resolve fs.access ⟨path, none⟩ id) = .error e) ∨
      ∃ bytes, IsSource fs path id bytes := by
  cases hresolve : Id.run (resolve fs.access ⟨path, none⟩ id) with
  | error e => exact Or.inl ⟨e, rfl⟩
  | ok place =>
      obtain ⟨root, hreaches, hwithin⟩ := resolve_eq_ok_iff.mp hresolve
      have hleads : SourceLeadsTo fs path id root place :=
        ⟨hreaches.rootLeads, hreaches.sourceLeads⟩
      obtain ⟨node, hnode, hlink⟩ := hreaches.sourceLeads.isReal
      cases node with
      | file bytes => exact Or.inr ⟨bytes, root, place, hleads, hwithin, hnode⟩
      | directory entries => exact absurd ⟨entries, hnode⟩ (hplain root place hleads)
      | link target => exact absurd rfl (hlink target)

/-- Resolving knows no limit, and does not complain about one. -/
theorem resolve_ne_tooLarge (limit : Option Nat) (source : String) (size bound : Nat) :
    Id.run (resolve fs.access ⟨path, limit⟩ id) ≠ .error (.tooLarge source size bound) := by
  intro h
  have hcases := resolution_resolve ⟨path, limit⟩ fs id
  rw [h] at hcases
  cases hcases

/-- Without a limit, a text within the root is loaded. -/
theorem answer_none_of_text (hfs : fs.root.isWellNamed = true) {text : String}
    (h : IsSource fs path id (utf8 text)) : answer fs path id none = .ok (Html.parse text) := by
  obtain ⟨root, place, ⟨hroot, hsource⟩, hwithin, hfile⟩ := h
  exact load_of_reaches hfs rfl ⟨hroot, hsource⟩ hwithin hfile

/-- Without a limit, what is wrong with the bytes of a file within the root is reported. -/
theorem answer_none_of_fault (hfs : fs.root.isWellNamed = true) (h : IsSource fs path id bytes)
    {fault : FileFault} (hfault : decodeText bytes = .error fault) :
    ∃ place, answer fs path id none = .error (.unreadable place fault) := by
  obtain ⟨root, place, ⟨hroot, hsource⟩, hwithin, hfile⟩ := h
  have hread : (fs.read place.text).bind decodeText = .error fault := by
    rw [(FileSystem.read_text_eq_ok_iff hfs hsource.isReal).mpr hfile]
    exact hfault
  refine ⟨place.text, ?_⟩
  rw [answer, load_eq, resolve_eq_ok_iff.mpr ⟨root, ⟨hroot, hsource⟩, hwithin⟩]
  simp only [checkSize_eq]
  rw [hread]

/-- **The limit decides by the number of bytes.**  A file above the limit is too large, and
any other is loaded as without a limit. -/
theorem load_of_isSource (hfs : fs.root.isWellNamed = true) (h : IsSource fs path id bytes)
    (limit : Nat) :
    answer fs path id (some limit) =
      if limit < bytes.length then .error (.tooLarge id bytes.length limit)
      else answer fs path id none := by
  obtain ⟨root, place, ⟨hroot, hsource⟩, hwithin, hfile⟩ := h
  have hresolve {bound : Option Nat} :
      Id.run (resolve fs.access ⟨path, bound⟩ id) = .ok place :=
    resolve_eq_ok_iff.mpr ⟨root, ⟨hroot, hsource⟩, hwithin⟩
  rw [answer, answer, load_eq, load_eq, hresolve, hresolve]
  simp only [checkSize_eq, FileSystem.size_text hfs hsource.isReal hfile]
  by_cases hlarge : limit < bytes.length
  · simp only [if_pos hlarge]
  · simp only [if_neg hlarge]

/-- Without a limit nothing is too large. -/
theorem answer_none_ne_tooLarge (hfs : fs.root.isWellNamed = true)
    (hplain : ∀ root place, SourceLeadsTo fs path id root place → ¬ fs.DirectoryAt place)
    (source : String) (size bound : Nat) :
    answer fs path id none ≠ .error (.tooLarge source size bound) := by
  intro h
  rcases unresolved_or_isSource hplain with ⟨e, he⟩ | ⟨bytes, hbytes⟩
  · rw [load_of_unresolved he none] at h
    obtain rfl := Except.error.inj h
    exact resolve_ne_tooLarge none source size bound he
  · cases hdecode : decodeText bytes with
    | error fault =>
        obtain ⟨place, hanswer⟩ := answer_none_of_fault hfs hbytes hdecode
        rw [h] at hanswer
        cases hanswer
    | ok text =>
        rw [decodeText_eq_ok_iff.mp hdecode] at hbytes
        rw [answer_none_of_text hfs hbytes] at h
        cases h

/-- **Limits.**  Let a source not lead to a directory.  Loading it under a limit ends with
"too large" exactly when the source is a file within the root with more bytes than the limit,
and these two numbers are named.  In every other case the answer is the one without a limit.
So a text of just as many bytes as the limit is loaded; what is refused before a file is found
is refused alike under every limit; bytes above the limit are too large even when they are
those of no text, which without a limit is what is complained about; and what is loaded under
one limit is loaded under every greater one. -/
theorem load_limited (fs : FileSystem) (hfs : fs.root.isWellNamed = true) (path id : String)
    (hplain : ∀ root place, SourceLeadsTo fs path id root place → ¬ fs.DirectoryAt place) :
    (∀ limit source size bound,
      answer fs path id (some limit) = .error (.tooLarge source size bound) ↔
        source = id ∧ bound = limit ∧
          ∃ bytes, IsSource fs path id bytes ∧ size = bytes.length ∧ limit < size) ∧
    (∀ limit, (∀ bytes, IsSource fs path id bytes → bytes.length ≤ limit) →
      answer fs path id (some limit) = answer fs path id none) ∧
    (∀ limit text, IsSource fs path id (utf8 text) → (utf8 text).length = limit →
      answer fs path id (some limit) = .ok (Html.parse text)) ∧
    (∀ e, Id.run (resolve fs.access ⟨path, none⟩ id) = .error e →
      ∀ limit, answer fs path id limit = .error e) ∧
    (∀ limit bytes, IsSource fs path id bytes → (∀ text, bytes ≠ utf8 text) →
      limit < bytes.length →
      answer fs path id (some limit) = .error (.tooLarge id bytes.length limit) ∧
        ∃ place, answer fs path id none = .error (.unreadable place .notUtf8)) ∧
    (∀ limit limit' tree, limit ≤ limit' → answer fs path id (some limit) = .ok tree →
      answer fs path id (some limit') = .ok tree) := by
  refine ⟨?_, ?_, ?_, fun e => load_of_unresolved, ?_, ?_⟩
  · intro limit source size bound
    constructor
    · intro h
      -- what is not resolved is refused whatever the limit is; a source is measured
      rcases unresolved_or_isSource hplain with ⟨e, he⟩ | ⟨bytes, hbytes⟩
      · rw [load_of_unresolved he] at h
        obtain rfl := Except.error.inj h
        exact absurd he (resolve_ne_tooLarge none source size bound)
      · rw [load_of_isSource hfs hbytes] at h
        by_cases hlarge : limit < bytes.length
        · rw [if_pos hlarge] at h
          obtain ⟨rfl, rfl, rfl⟩ := RetrievalError.tooLarge.inj (Except.error.inj h)
          exact ⟨rfl, rfl, bytes, hbytes, rfl, hlarge⟩
        · rw [if_neg hlarge] at h
          exact absurd h (answer_none_ne_tooLarge hfs hplain source size bound)
    · rintro ⟨rfl, rfl, bytes, hbytes, rfl, hlarge⟩
      rw [load_of_isSource hfs hbytes, if_pos hlarge]
  · intro limit hsmall
    rcases unresolved_or_isSource hplain with ⟨e, he⟩ | ⟨bytes, hbytes⟩
    · rw [load_of_unresolved he, load_of_unresolved he]
    · rw [load_of_isSource hfs hbytes, if_neg (Nat.not_lt.mpr (hsmall bytes hbytes))]
  · rintro limit text htext rfl
    rw [load_of_isSource hfs htext, if_neg (Nat.lt_irrefl _), answer_none_of_text hfs htext]
  · intro limit bytes hbytes hnone hlarge
    refine ⟨?_, answer_none_of_fault hfs hbytes (decodeText_of_ne hnone)⟩
    rw [load_of_isSource hfs hbytes, if_pos hlarge]
  · intro limit limit' tree hle h
    rcases unresolved_or_isSource hplain with ⟨e, he⟩ | ⟨bytes, hbytes⟩
    · rw [load_of_unresolved he] at h
      cases h
    · rw [load_of_isSource hfs hbytes] at h ⊢
      by_cases hlarge : limit < bytes.length
      · rw [if_pos hlarge] at h
        cases h
      · have hfits : ¬ limit' < bytes.length := by omega
        rw [if_neg hlarge] at h
        rw [if_neg hfits, h]

/-- A link within the root, to a file of four bytes: three are too few, and four are enough,
as are nine. -/
theorem load_limited_latest :
    neighbours.root.isWellNamed = true ∧
      (∀ root place, SourceLeadsTo neighbours "books" "latest" root place →
        ¬ neighbours.DirectoryAt place) ∧
      answer neighbours "books" "latest" (some 3) = .error (.tooLarge "latest" 4 3) ∧
      answer neighbours "books" "latest" (some 4) = .ok (Html.parse "<p>a") ∧
      answer neighbours "books" "latest" (some 9) = .ok (Html.parse "<p>a") := by
  have hnamed : neighbours.root.isWellNamed = true := by decide +kernel
  have hplain : ∀ root place, SourceLeadsTo neighbours "books" "latest" root place →
      ¬ neighbours.DirectoryAt place := by
    rintro root place ⟨hroot, hsource⟩ ⟨entries, hentries⟩
    obtain rfl := hroot.unique neighbours_leadsTo_books
    obtain rfl := hsource.unique neighbours_leadsTo_latest
    cases hentries
  have hfile : IsSource neighbours "books" "latest" (utf8 "<p>a") :=
    ⟨["srv", "books"], ["srv", "books", "a.html"],
      ⟨neighbours_leadsTo_books, neighbours_leadsTo_latest⟩, by decide, rfl⟩
  obtain ⟨hlarge, -, hexact, -, -, hmore⟩ := load_limited neighbours hnamed "books" "latest" hplain
  have hfour : answer neighbours "books" "latest" (some 4) = .ok (Html.parse "<p>a") :=
    hexact 4 "<p>a" hfile (by decide)
  refine ⟨hnamed, hplain, ?_, hfour, hmore 4 9 _ (by decide) hfour⟩
  exact (hlarge 3 "latest" 4 3).mpr ⟨rfl, rfl, utf8 "<p>a", hfile, by decide, by decide⟩

end BookRoot

end BookCensus
