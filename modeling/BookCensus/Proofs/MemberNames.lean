import BookCensus.Catalog.Load
import BookCensus.Proofs.RequestRuns

/-!
# The names of members in answers

An answer is an object whose first members are fixed and whose last ones are
whatever else the catalog says of a book.

* `Catalog.isAscending_of_ofText` — in a catalog that was read they come in ascending
  order, hence each once;
* `memberNames_of_answers` — a name of a member is repeated exactly when one of them
  is also the name of a fixed one, which nothing keeps a catalog from; the first
  member of such a name is the fixed one.
-/

namespace BookCensus

namespace Json

/-- The names of the members of an object, in the order in which they are written. -/
def memberNames : Json → List String
  | .object members => members.map Prod.fst
  | _ => []

/-- Members in strictly ascending order of their names. -/
def Ascending (members : List (String × Json)) : Prop :=
  members.Pairwise fun m n => m.1 < n.1

/-- Names that ascend are not repeated. -/
theorem Ascending.nodup {members : List (String × Json)} (h : Ascending members) :
    (members.map Prod.fst).Nodup := by
  rw [List.Nodup, List.pairwise_map]
  refine h.imp ?_
  intro m n hlt heq
  exact String.lt_irrefl n.1 (heq ▸ hlt)

/-- What is put among members is new or was there. -/
theorem mem_of_mem_insertMember {name : String} {value : Json} {m : String × Json}
    {members : List (String × Json)} (h : m ∈ insertMember name value members) :
    m = (name, value) ∨ m ∈ members := by
  induction members with
  | nil => exact Or.inl (List.mem_singleton.mp h)
  | cons first rest ih =>
      rw [insertMember] at h
      split at h
      · exact List.mem_cons.mp h
      · split at h
        · exact (List.mem_cons.mp h).imp_right (List.mem_cons_of_mem first)
        · rcases List.mem_cons.mp h with rfl | h
          · exact Or.inr List.mem_cons_self
          · exact (ih h).imp_right (List.mem_cons_of_mem first)

/-- A member is put where the order is kept. -/
theorem Ascending.insertMember {members : List (String × Json)} (h : Ascending members)
    (name : String) (value : Json) : Ascending (insertMember name value members) := by
  induction members with
  | nil => exact List.pairwise_singleton _ _
  | cons first rest ih =>
      obtain ⟨hfirst, hrest⟩ := List.pairwise_cons.mp h
      rw [Json.insertMember]
      split
      · next hlt =>
          refine List.pairwise_cons.mpr ⟨?_, h⟩
          intro m hm
          rcases List.mem_cons.mp hm with rfl | hm
          · exact hlt
          · exact String.lt_trans hlt (hfirst m hm)
      · next hnlt =>
          split
          · next heq =>
              refine List.pairwise_cons.mpr ⟨?_, hrest⟩
              intro m hm
              exact heq ▸ hfirst m hm
          · next hne =>
              refine List.pairwise_cons.mpr ⟨?_, ih hrest⟩
              intro m hm
              rcases mem_of_mem_insertMember hm with rfl | hm
              · exact Std.lt_of_le_of_ne hnlt (Ne.symm hne)
              · exact hfirst m hm

/-- Members brought into order ascend. -/
theorem ascending_sortMembers (members : List (String × Json)) :
    Ascending (sortMembers members) := by
  rw [sortMembers]
  refine List.foldlRecOn members _ List.Pairwise.nil ?_
  intro done hdone m _
  exact hdone.insertMember m.1 m.2

end Json

/-! ## Reading step by step -/

section Reading

variable {α β ε : Type}

/-- Of two steps that end well the first does, and the second from where it ended. -/
theorem exists_ok_of_bind {x : Except ε α} {f : α → Except ε β} {b : β}
    (h : (x >>= f) = .ok b) : ∃ a, x = .ok a ∧ f a = .ok b := by
  cases x with
  | error e => cases h
  | ok a => exact ⟨a, rfl, h⟩

/-- Two steps that end well one after the other end well together. -/
theorem bind_eq_ok {x : Except ε α} {f : α → Except ε β} {a : α} {b : β} (hx : x = .ok a)
    (hf : f a = .ok b) : (x >>= f) = .ok b := by
  rw [hx]
  exact hf

/-- A step whose result passes a test ends well. -/
theorem exists_ok_of_any {x : Except ε α} {test : α → Bool}
    (h : x.toOption.any test = true) : ∃ a, x = .ok a ∧ test a = true := by
  cases x with
  | error e => cases h
  | ok a => exact ⟨a, rfl, h⟩

/-- A step without a result ends badly. -/
theorem exists_error_of_isNone {x : Except ε α} (h : x.toOption.isNone = true) :
    ∃ e, x = .error e := by
  cases x with
  | error e => exact ⟨e, rfl⟩
  | ok a => cases h

/-- What every step of a fold keeps, a fold that ends well keeps. -/
theorem foldlM_ok_induction {f : β → α → Except ε β} (P : β → Prop)
    (step : ∀ b a b', P b → f b a = .ok b' → P b') {as : List α} {b b' : β} (hb : P b)
    (h : as.foldlM f b = .ok b') : P b' := by
  induction as generalizing b with
  | nil =>
      obtain rfl := Except.ok.inj h
      exact hb
  | cons a rest ih =>
      rw [List.foldlM_cons] at h
      obtain ⟨next, hnext, hrest⟩ := exists_ok_of_bind h
      exact ih (step b a next hb hnext) hrest

/-- What comes out of a list that is read item by item was read from an item. -/
theorem exists_of_mem_mapM_ok {f : α → Except ε β} {as : List α} {bs : List β}
    (h : as.mapM f = .ok bs) : ∀ b ∈ bs, ∃ a ∈ as, f a = .ok b := by
  induction as generalizing bs with
  | nil =>
      obtain rfl := Except.ok.inj h
      simp
  | cons a rest ih =>
      rw [List.mapM_cons] at h
      obtain ⟨first, hfirst, htail⟩ := exists_ok_of_bind h
      obtain ⟨more, hmore, hbs⟩ := exists_ok_of_bind htail
      obtain rfl := Except.ok.inj hbs
      intro b hb
      rcases List.mem_cons.mp hb with rfl | hb
      · exact ⟨a, List.mem_cons_self, hfirst⟩
      · obtain ⟨x, hx, hxb⟩ := ih hmore b hb
        exact ⟨x, List.mem_cons_of_mem a hx, hxb⟩

end Reading

/-! ## Books of a catalog -/

namespace Book

/-- The further members of a book are brought into order when all of them have been read. -/
theorem ascending_of_ofMembers {members : Toml.Table} {b : Book}
    (h : ofMembers members = .ok b) : Json.Ascending b.extra := by
  rw [ofMembers] at h
  obtain ⟨raw, -, hb⟩ := exists_ok_of_bind h
  obtain rfl := Except.ok.inj hb
  exact Json.ascending_sortMembers raw.extra

/-- The further members of a book that was read ascend. -/
theorem ascending_of_ofToml {v : Toml.Located Toml.Value} {b : Book}
    (h : ofToml v = .ok b) : Json.Ascending b.extra := by
  rw [ofToml] at h
  split at h
  · exact ascending_of_ofMembers h
  · exact ascending_of_ofMembers h
  · cases h

end Book

namespace Catalog

/-- Every book has its further members in ascending order. -/
def IsAscending (c : Catalog) : Prop :=
  ∀ b ∈ c.books, Json.Ascending b.extra

/-- One more member of the document keeps the books in order. -/
theorem IsAscending.add {c c' : Catalog} {m : String × Toml.Located Toml.Value}
    (hc : c.IsAscending) (h : c.add m = .ok c') : c'.IsAscending := by
  rw [Catalog.add.eq_def] at h
  split at h
  · obtain ⟨settings, -, hc'⟩ := exists_ok_of_bind h
    obtain rfl := Except.ok.inj hc'
    exact hc
  · split at h
    · obtain ⟨books, hbooks, hc'⟩ := exists_ok_of_bind h
      obtain rfl := Except.ok.inj hc'
      intro b hb
      obtain ⟨item, -, hitem⟩ := exists_of_mem_mapM_ok hbooks b hb
      exact Book.ascending_of_ofToml hitem
    · cases h
  · obtain rfl := Except.ok.inj h
    exact hc

/-- So they ascend in every book of a catalog that was read. -/
theorem isAscending_of_ofToml {text : String} {c : Catalog}
    (h : Catalog.ofToml text = .ok c) : c.IsAscending := by
  have hempty : IsAscending ⟨.initial, []⟩ := fun b hb => nomatch hb
  have hread : (Toml.parse text.toList >>= fun members =>
      members.foldlM Catalog.add ⟨.initial, []⟩) = .ok c := by
    rw [Catalog.ofToml, Except.mapError.eq_def] at h
    split at h
    · cases h
    · next hfound =>
        obtain rfl := Except.ok.inj h
        exact hfound
  obtain ⟨members, -, hfold⟩ := exists_ok_of_bind hread
  exact foldlM_ok_induction IsAscending (fun _ _ _ hc hstep => hc.add hstep) hempty hfold

/-- The books of a catalog that was read have their further members in ascending
order. -/
theorem isAscending_of_ofText {origin text : String} {c : Catalog}
    (h : Catalog.ofText origin text = .ok c) : c.IsAscending := by
  rw [Catalog.ofText] at h
  split at h
  · cases h
  · next found hfound =>
      split at h
      · obtain rfl := Except.ok.inj h
        exact isAscending_of_ofToml hfound
      · cases h

end Catalog

/-! ## Answers -/

/-- A book passed through an answer is the one that was asked for. -/
theorem Query.lookup?_of_answer [Css.Wording] {q : Query} {catalog : Catalog} {mode : TextMatch}
    {load : String → Except RetrievalError Document.Tree} {r : Report}
    (h : Id.run (q.answer catalog mode load) = .ok r) :
    catalog.lookup? q.book = some r.book := by
  have hprepare := q.prepare_eq catalog mode
  cases hbook : catalog.lookup? q.book with
  | none =>
      simp only [hbook] at hprepare
      simp only [Query.answer, hprepare] at h
      cases h
  | some book =>
      cases hplan : Plan.parse q.selector mode with
      | error e =>
          simp only [hbook, hplan] at hprepare
          simp only [Query.answer, hprepare] at h
          cases h
      | ok plan =>
          simp only [hbook, hplan] at hprepare
          simp only [Query.answer, hprepare, Id.run, bind] at h
          cases hload : load book.file with
          | error e =>
              rw [hload] at h
              cases h
          | ok tree =>
              rw [hload] at h
              obtain rfl := Except.ok.inj h
              rfl

/-- Members in ascending order behind fixed ones repeat a name only if it is that of
a fixed one. -/
theorem nodup_append_names_iff (fixed : List String) (hfixed : fixed.Nodup)
    {members : List (String × Json)} (h : Json.Ascending members) :
    (fixed ++ members.map Prod.fst).Nodup ↔ ∀ name ∈ fixed, name ∉ members.map Prod.fst := by
  rw [List.nodup_append]
  constructor
  · rintro ⟨-, -, hdisjoint⟩ name hname hmem
    exact hdisjoint name hname name hmem rfl
  · intro hdisjoint
    refine ⟨hfixed, h.nodup, ?_⟩
    rintro name hname other hother rfl
    exact hdisjoint name hname hother

/-- A book in an answer to a listing: two fixed members. -/
theorem Book.nodup_memberNames_iff {b : Book} (h : Json.Ascending b.extra) :
    (Json.memberNames b.toJson).Nodup ↔
      ∀ name ∈ ["bookName", "fileName"], name ∉ b.extra.map Prod.fst :=
  nodup_append_names_iff ["bookName", "fileName"] (by decide) h

/-- A report: three fixed members. -/
theorem Report.nodup_memberNames_iff {r : Report} (h : Json.Ascending r.book.extra) :
    (Json.memberNames r.toJson).Nodup ↔
      ∀ name ∈ ["Results", "bookName", "fileName"], name ∉ r.book.extra.map Prod.fst :=
  nodup_append_names_iff ["Results", "bookName", "fileName"] (by decide) h

/-- **Members of answers.**  In the list of books of a catalog that was read, and in
every report on one of them, a name of a member is repeated exactly when the
catalog gives the book a further member with the name of a fixed one.  The first
member of a fixed name is the fixed one: the results, the name of the book that
was asked for, its file. -/
theorem memberNames_of_answers [Css.Wording] {origin text : String} {c : Catalog}
    (hc : Catalog.ofText origin text = .ok c) :
    (∀ b ∈ c.books,
      ((Json.memberNames b.toJson).Nodup ↔
        ∀ name ∈ ["bookName", "fileName"], name ∉ b.extra.map Prod.fst) ∧
      b.toJson.member? "bookName" = some (.string b.name) ∧
      b.toJson.member? "fileName" = some (.string b.file)) ∧
    ∀ (q : Query) (mode : TextMatch) (load : String → Except RetrievalError Document.Tree)
      (r : Report), Id.run (q.answer c mode load) = .ok r →
      c.FirstNamed q.book r.book ∧
      ((Json.memberNames r.toJson).Nodup ↔
        ∀ name ∈ ["Results", "bookName", "fileName"], name ∉ r.book.extra.map Prod.fst) ∧
      r.toJson.member? "Results" = some (.array (r.results.map SectionResult.toJson)) ∧
      r.toJson.member? "bookName" = some (.string r.book.name) ∧
      r.toJson.member? "fileName" = some (.string r.book.file) := by
  have hascending := Catalog.isAscending_of_ofText hc
  constructor
  · intro b hb
    exact ⟨Book.nodup_memberNames_iff (hascending b hb), rfl, rfl⟩
  · intro q mode load r h
    have hfirst := Catalog.lookup?_eq_some_iff.mp (Query.lookup?_of_answer h)
    obtain ⟨earlier, later, hbooks, -, -⟩ := id hfirst
    have hmem : r.book ∈ c.books := by simp [hbooks]
    exact ⟨hfirst, Report.nodup_memberNames_iff (hascending r.book hmem), rfl, rfl, rfl⟩

/-- What is answered, out of a catalog, when one asks for the paragraphs of the book
`B`, whose file is empty. -/
def answerFrom (c : Catalog) : Except RequestError Report :=
  Id.run (Query.answer ⟨"B", "p"⟩ c .substring fun _ => .ok (Html.parse ""))

/-- A catalog that says one thing more of its book. -/
def subjectCatalog : String :=
  "[[books]]\nbook_name = 'B'\nfile_name = 'b.html'\nsubject = 'x'\n"

/-- A further member of any other name makes no name ambiguous. -/
theorem memberNames_of_answers_subject :
    ∃ c r, Catalog.ofText Catalog.inlineOrigin subjectCatalog = .ok c ∧ answerFrom c = .ok r ∧
      (Json.memberNames r.toJson).Nodup ∧
      r.toJson.member? "bookName" = some (.string "B") := by
  have hread : (Catalog.ofText Catalog.inlineOrigin subjectCatalog).toOption.any (fun c =>
      (answerFrom c).toOption.any fun r => r.book.extra.map Prod.fst = ["subject"]) = true := by
    decide +kernel
  obtain ⟨c, hc, hanswer⟩ := exists_ok_of_any hread
  obtain ⟨r, hr, hextra⟩ := exists_ok_of_any hanswer
  obtain ⟨⟨_, _, _, hname, -⟩, hnodup, -, hfirst, -⟩ :=
    (memberNames_of_answers hc).2 ⟨"B", "p"⟩ .substring _ r hr
  refine ⟨c, r, hc, hr, hnodup.mpr ?_, by rw [hfirst, hname]⟩
  rw [of_decide_eq_true hextra]
  decide

/-- A catalog that says further things of its book under the names of fixed members. -/
def shadowingCatalog : String :=
  "[[books]]\nbook_name = 'B'\nfile_name = 'b.html'\nResults = 1\nbookName = 'x'\nfileName = 2\n"

/-- Such a catalog is accepted, and the list of its books and the reports on its book
repeat names of members. -/
theorem exists_repeated_memberNames :
    ∃ c r, Catalog.ofText Catalog.inlineOrigin shadowingCatalog = .ok c ∧ answerFrom c = .ok r ∧
      ¬ (Json.memberNames r.toJson).Nodup ∧
      ∃ b ∈ c.books, ¬ (Json.memberNames b.toJson).Nodup := by
  have hread : (Catalog.ofText Catalog.inlineOrigin shadowingCatalog).toOption.any (fun c =>
      (answerFrom c).toOption.any (fun r => ¬ (Json.memberNames r.toJson).Nodup)
        && c.books.any fun b => ¬ (Json.memberNames b.toJson).Nodup) = true := by
    decide +kernel
  obtain ⟨c, hc, hboth⟩ := exists_ok_of_any hread
  obtain ⟨hanswer, hbooks⟩ := Bool.and_eq_true_iff.mp hboth
  obtain ⟨r, hr, hreport⟩ := exists_ok_of_any hanswer
  obtain ⟨b, hb, hbook⟩ := List.any_eq_true.mp hbooks
  exact ⟨c, r, hc, hr, of_decide_eq_true hreport, b, hb, of_decide_eq_true hbook⟩

end BookCensus
