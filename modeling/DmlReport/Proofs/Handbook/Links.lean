import DmlReport.Command.Explain
import DmlReport.Proofs.Document.Members
import DmlReport.Proofs.Settings.Accepted
import Mathlib.Data.List.TakeWhile

/-!
# Links to the documentation

Settings are accepted if their root of the documentation starts with the scheme of the web.
A handbook takes the slashes off the end of that root before it adds a page, and where
nothing but slashes follows the scheme, those of the scheme go too: `https://` becomes
`https:`, and a page under it is no longer on the web.  A link is on the web exactly if the
root names a host, that is, if something other than a slash follows the scheme
(`Settings.links_onWeb_iff`); `Settings.links_offWeb` is a root that does not.
-/

namespace DmlReport

open Command

namespace Handbook

/-! ## Slashes at the end -/

/-- Characters without the slashes at their end. -/
def dropSlashes (cs : List Char) : List Char :=
  (cs.reverse.dropWhile (· == '/')).reverse

theorem toList_withoutSlashes (s : String) :
    (withoutSlashes s).toList = dropSlashes s.toList :=
  String.toList_ofList

theorem dropSlashes_append_slashes (cs : List Char) {rest : List Char}
    (h : ∀ c ∈ rest, c = '/') : dropSlashes (cs ++ rest) = dropSlashes cs := by
  have hnone : rest.reverse.dropWhile (· == '/') = [] :=
    List.dropWhile_eq_nil_iff.2 fun c hc => beq_iff_eq.2 (h c (List.mem_reverse.1 hc))
  unfold dropSlashes
  rw [List.reverse_append, List.dropWhile_append, hnone]
  rfl

/-- Slashes before another character stay. -/
theorem dropSlashes_append (cs : List Char) {rest : List Char} (h : ∃ c ∈ rest, c ≠ '/') :
    dropSlashes (cs ++ rest) = cs ++ dropSlashes rest := by
  obtain ⟨c, hc, hne⟩ := h
  have hsome : (rest.reverse.dropWhile (· == '/')).isEmpty = false := by
    rw [← Bool.not_eq_true, List.isEmpty_iff, List.dropWhile_eq_nil_iff]
    intro hall
    exact hne (beq_iff_eq.1 (hall c (List.mem_reverse.2 hc)))
  unfold dropSlashes
  rw [List.reverse_append, List.dropWhile_append, hsome, if_neg Bool.false_ne_true,
    List.reverse_append, List.reverse_reverse]

/-! ## Pages -/

/-- The pages that the handbook refers to. -/
def pages : List String :=
  codeRows.filterMap (·.page) ++ categoryRows.filterMap (·.page)

theorem mem_pages {code : Option String} {category : Category} {page : String}
    (h : page? code category = some page) : page ∈ pages := by
  unfold page? at h
  rcases Option.or_eq_some_iff.1 h with h | ⟨-, h⟩
  · obtain ⟨row, hrow, hpage⟩ := Option.bind_eq_some_iff.1 h
    obtain ⟨code, -, hfind⟩ := Option.bind_eq_some_iff.1 hrow
    exact List.mem_append_left _
      (List.mem_filterMap.2 ⟨row, List.mem_of_find?_eq_some hfind, hpage⟩)
  · obtain ⟨row, hrow, hpage⟩ := Option.bind_eq_some_iff.1 h
    exact List.mem_append_right _
      (List.mem_filterMap.2 ⟨row, List.mem_of_find?_eq_some hrow, hpage⟩)

theorem page_relative : ∀ page ∈ pages, page.toList.head? ≠ some '/' := by
  decide

/-- A link is a page under the root, with one slash between them. -/
theorem toList_link {h : Handbook} {code : Option String} {category : Category}
    {context : Option Json.Members} {url : String}
    (hlink : (h.advise code category context).link = some url) :
    ∃ page ∈ pages, url.toList = h.root.toList ++ '/' :: page.toList := by
  obtain ⟨page, hpage, rfl⟩ := Option.map_eq_some_iff.1 hlink
  refine ⟨page, mem_pages hpage, ?_⟩
  simp [toString]

end Handbook

namespace Settings

/-! ## Roots on the web -/

/-- The schemes of the web. -/
def schemes : List String := ["https://", "http://"]

theorem isOnWeb_iff (url : String) :
    isOnWeb url = true ↔ ∃ scheme ∈ schemes, scheme.toList <+: url.toList := by
  simp [isOnWeb, schemes, List.isPrefixOf_iff_prefix]

/-- Something other than a slash follows the scheme of a URL. -/
def NamesHost (url : String) : Prop :=
  ∃ scheme ∈ schemes, ∃ rest, url.toList = scheme.toList ++ rest ∧ ∃ c ∈ rest, c ≠ '/'

/-- Accepted settings have a root on the web. -/
theorem isOnWeb_docRoot {toml : String} {s : Settings} (h : parse toml = .ok s) :
    isOnWeb s.docRoot = true :=
  isOnWeb_iff_onWeb.2 (parse_eq_ok_iff.1 h).2.scheme

/-- A scheme that has lost its slashes is none, whatever page stands under it. -/
theorem scheme_lost {scheme scheme' : String} (h : scheme ∈ schemes) (h' : scheme' ∈ schemes)
    {page : List Char} (hpage : page.head? ≠ some '/') :
    ¬scheme'.toList <+: Handbook.dropSlashes scheme.toList ++ '/' :: page := by
  have hhttps : Handbook.dropSlashes ['h', 't', 't', 'p', 's', ':', '/', '/'] =
      ['h', 't', 't', 'p', 's', ':'] := by decide
  have hhttp : Handbook.dropSlashes ['h', 't', 't', 'p', ':', '/', '/'] =
      ['h', 't', 't', 'p', ':'] := by decide
  have hslash : ¬['/'] <+: page := by
    intro hprefix
    obtain ⟨rest, rfl⟩ := hprefix
    exact hpage rfl
  simp only [schemes, List.mem_cons, List.not_mem_nil, or_false] at h h'
  rcases h with rfl | rfl <;> rcases h' with rfl | rfl <;> simp [hhttps, hhttp, hslash]

/-- A page is on the web if and only if the root that it stands under names a host. -/
theorem isOnWeb_page {root url page : String} (hroot : isOnWeb root = true)
    (hpage : page.toList.head? ≠ some '/')
    (hurl : url.toList = (Handbook.withoutSlashes root).toList ++ '/' :: page.toList) :
    isOnWeb url = true ↔ NamesHost root := by
  rw [Handbook.toList_withoutSlashes] at hurl
  constructor
  · intro hweb
    obtain ⟨scheme, hscheme, rest, hrest⟩ := (isOnWeb_iff root).1 hroot
    refine ⟨scheme, hscheme, rest, hrest.symm, ?_⟩
    by_cases hslashes : ∀ c ∈ rest, c = '/'
    · obtain ⟨scheme', hscheme', hprefix⟩ := (isOnWeb_iff url).1 hweb
      rw [hurl, ← hrest, Handbook.dropSlashes_append_slashes _ hslashes] at hprefix
      exact absurd hprefix (scheme_lost hscheme hscheme' hpage)
    · simpa using hslashes
  · rintro ⟨scheme, hscheme, rest, hrest, hhost⟩
    refine (isOnWeb_iff url).2 ⟨scheme, hscheme, ?_⟩
    rw [hurl, hrest, Handbook.dropSlashes_append _ hhost, List.append_assoc]
    exact List.prefix_append _ _

/-- Links from accepted settings, in an entry of a document or in an explanation, are on the
web if and only if the root of the documentation names a host. -/
theorem links_onWeb_iff {toml : String} {s : Settings} (h : parse toml = .ok s) :
    (∀ code category context url, (s.handbook.advise code category context).link = some url →
      (isOnWeb url = true ↔ NamesHost s.docRoot)) ∧
    (∀ raw url,
      (Finding.ofDiagnostic s.handbook raw).toValue.text? "documentation_url" = some url →
        (isOnWeb url = true ↔ NamesHost s.docRoot)) ∧
    ∀ options, ∃ category advice,
      explain s options = .printed (explanation options.code options.kind category advice) ∧
      ∀ url, advice.link = some url → (isOnWeb url = true ↔ NamesHost s.docRoot) := by
  have hadvice : ∀ code category context url,
      (s.handbook.advise code category context).link = some url →
        (isOnWeb url = true ↔ NamesHost s.docRoot) := by
    intro code category context url hlink
    obtain ⟨page, hpage, hurl⟩ := Handbook.toList_link hlink
    exact isOnWeb_page (isOnWeb_docRoot h) (Handbook.page_relative page hpage) hurl
  refine ⟨hadvice, fun raw url hurl => ?_, fun options => ⟨_, _, rfl, hadvice _ _ _⟩⟩
  rw [Finding.text?_documentation_url] at hurl
  exact hadvice _ _ _ _ hurl

/-- Settings whose root of the documentation is a bare scheme. -/
def bareRoot : String := "[export]\ndoc_base_url = \"https://\"\n"

def bareSettings : Settings := { defaults with docRoot := "https://" }

theorem links_onWeb_iff_bareRoot :
    parse bareRoot = .ok bareSettings ∧
    (isOnWeb "https:/language.html#syntax" = true ↔ NamesHost bareSettings.docRoot) := by
  have h : parse bareRoot = .ok bareSettings := by decide +kernel
  have hlink : (bareSettings.handbook.advise (some "ESYNTAX") .grammar none).link =
      some "https:/language.html#syntax" := by decide +kernel
  exact ⟨h, (links_onWeb_iff h).1 _ _ _ _ hlink⟩

/-- Accepted settings whose links are not on the web. -/
theorem links_offWeb :
    parse bareRoot = .ok bareSettings ∧
    (Finding.ofDiagnostic bareSettings.handbook (.raise .error "ESYNTAX" "")).toValue.text?
      "documentation_url" = some "https:/language.html#syntax" ∧
    "documentation: https:/language.html#syntax\n".toList <:+
      (explain bareSettings ⟨"ESYNTAX", .error⟩).output.toList ∧
    isOnWeb "https:/language.html#syntax" = false := by
  decide +kernel

end Settings

end DmlReport
