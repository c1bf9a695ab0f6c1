import ScopeLexer.Proofs.Scan.Access
import ScopeLexer.Proofs.Session

/-! Histories. A session's cache serves the requests to the session, those of anyone who asks for the
lexer of a definition, and scanners with catalogues of their own. All that it is asked for, by the
scans of embedded languages too, is one log of accesses. -/

namespace ScopeLexer

open ScopeLexer.Language Regex Access

namespace Session

/-- What uses the cache of a session: a request to the session, a request for the lexer of a
definition, or a scan by a scanner that shares the cache and counted some matches before. -/
inductive Use
  | request (r : Request)
  | fetch (d : Definition)
  | scan (c : Catalogue) (o : Options) (count : Nat) (l : Lexer) (source : String)

section

variable [Engine]

/-- The session after a use of its cache. -/
def use (s : Session) : Use → Session
  | .request r => (s.answer r).2
  | .fetch d => { s with cache := (s.cache.fetch d).2 }
  | .scan c o count l source =>
    { s with cache := ((⟨c, o, s.cache, count⟩ : Scanner).scan l source).2.cache }

/-- The session after some uses. -/
def used (s : Session) (us : List Use) : Session := us.foldl use s

/-- The accesses to the cache for a request. -/
def requestAccesses (s : Session) : Request → List Access
  | .register _ | .configure _ | .find _ => []
  | .lexer name => ((s.catalogue.find? name).map (⟨·, s.cache⟩)).toList
  | .tokenize name source | .parse name source =>
    (⟨name, Text.ofString source, s.cache, 0⟩ : Scan.Call).accesses s.catalogue
      (Scan.accesses s.catalogue s.options s.options.depthLimit)

/-- The accesses to the cache in a use of it, in order. -/
def accesses (s : Session) : Use → List Access
  | .request r => s.requestAccesses r
  | .fetch d => [⟨d, s.cache⟩]
  | .scan c o count l source =>
    Scan.accesses c o o.depthLimit l (Text.ofString source) s.cache count

/-- All accesses to the cache in some uses. -/
def log : Session → List Use → List Access
  | _, [] => []
  | s, u :: us => s.accesses u ++ (s.use u).log us

variable {s : Session}

theorem lexer_of_find? {name : String} {d : Definition} (h : s.catalogue.find? name = some d) :
    s.lexer name = ((s.cache.fetch d).1, { s with cache := (s.cache.fetch d).2 }) := by
  rw [lexer, h]

theorem lexer_chained (s : Session) (name : String) :
    Chained s.cache (s.requestAccesses (.lexer name)) (s.lexer name).2.cache := by
  cases hd : s.catalogue.find? name with
  | none =>
    rw [requestAccesses, lexer, hd]
    exact rfl
  | some d =>
    rw [requestAccesses, lexer_of_find? hd, hd]
    exact ⟨rfl, rfl⟩

theorem parse_cache (s : Session) (name source : String) :
    (s.parse name source).2.cache = (s.parse name source).1.cache := by
  unfold parse
  obtain ⟨e | l, t⟩ := s.lexer name <;> rfl

theorem parse_chained (s : Session) (name source : String) :
    Chained s.cache (s.requestAccesses (.parse name source)) (s.parse name source).2.cache := by
  rw [parse_cache, parse_eq_embedded]
  have hscan := scan_chained s.catalogue s.options s.options.depthLimit
  exact Scan.linked_embedded hscan ⟨name, Text.ofString source, s.cache, 0⟩

theorem use_chained (s : Session) (u : Use) : Chained s.cache (s.accesses u) (s.use u).cache := by
  cases u with
  | request r =>
    cases r with
    | register d => exact rfl
    | configure o => exact rfl
    | find name => exact rfl
    | lexer name => exact s.lexer_chained name
    | tokenize name source => exact s.parse_chained name source
    | parse name source => exact s.parse_chained name source
  | fetch d => exact ⟨rfl, rfl⟩
  | scan c o count l source => exact scan_chained c o o.depthLimit l _ s.cache count

theorem log_chained (s : Session) (us : List Use) :
    Chained s.cache (s.log us) (s.used us).cache := by
  induction us generalizing s with
  | nil => exact rfl
  | cons u us ih => exact Chained.append.2 ⟨_, s.use_chained u, ih (s.use u)⟩

/-- Whatever the cache of a session was used for since it was new, and whatever failed: every access
to it finds what was handed out before and makes what was not, and so does whoever comes next. A
language has the lexer that was made first for its key, though its definition may be another by now,
under all its names; if none was made, the next request tries to. -/
theorem used_kept (c : Catalogue) (o : Options) (us : List Use) :
    let s : Session := used ⟨c, .empty, o⟩ us
    let log := log ⟨c, .empty, o⟩ us
    (∀ earlier a later, log = earlier ++ a :: later → Kept earlier a.cache) ∧ Kept log s.cache ∧
      ∀ name d, s.catalogue.find? name = some d →
        (∀ a ∈ log, a.key = d.key → ∀ l, a.result = .ok l →
          s.lexer name = (.ok l, s) ∧ ∀ source, (s.parse name source).1 =
            scan s.catalogue s.options s.options.depthLimit l (Text.ofString source) s.cache 0) ∧
        ((∀ a ∈ log, a.key = d.key → ∀ l, a.result ≠ .ok l) →
          (s.lexer name).1 = Lexer.compile d) := by
  intro s log
  have hchain : Chained .empty log s.cache := log_chained ⟨c, .empty, o⟩ us
  have hkept := hchain.kept
  refine ⟨fun earlier a later h => ?_, hkept, fun name d hd => ⟨?_, fun h => ?_⟩⟩
  · obtain ⟨k, hearlier, rfl, -⟩ := Chained.append.1 (h ▸ hchain)
    exact hearlier.kept
  · intro a ha hkey l hl
    obtain ⟨place, -, hplace⟩ := hkept.keeps a ha l hl
    have hfetch : s.cache.fetch d = (.ok l, s.cache) := hplace.fetched _ d hkey.symm
    refine ⟨by rw [lexer_of_find? hd, hfetch], fun source => ?_⟩
    rw [parse_eq_embedded, Scan.embedded, hd]
    simp only [hfetch]
  · rw [lexer_of_find? hd]
    exact (hkept.lacks d.key h).made Lexer.compile d rfl

end

/-- A pattern that is not closed. -/
def faulty : Definition := ⟨"code", "Code", .names [], [⟨"(", .empty⟩]⟩

def digits : Definition :=
  ⟨"CODE", "Code", .names [], [⟨"\\d+", .ofList [(0, .scope "Number")]⟩]⟩

def letters : Definition :=
  ⟨"Code", "Code", .names ["c"], [⟨"[a-z]+", .ofList [(0, .scope "Word")]⟩]⟩

/-- The code has a definition with faults, then one without, then another one. -/
def replacing : List Use :=
  [.request (.register bracketed), .request (.register faulty), .request (.parse "doc" "a<1>"),
    .request (.register digits), .fetch faulty, .request (.tokenize "DOC" "a<1>"),
    .request (.register letters)]

/-- The scans ask for the outer and the inner language each, and the inner one fails in the first of
them. The last definition gets the lexer of the one before it. -/
theorem used_kept_replacing :
    let s : Session := used ⟨.empty, .empty, {}⟩ replacing
    let log := log ⟨.empty, .empty, {}⟩ replacing
    log.map (fun a => (a.key, a.succeeds)) =
      [("doc", true), ("code", false), ("code", false), ("doc", true), ("code", true)] ∧
    s.cache.size = 2 ∧ Kept log s.cache ∧
    ∃ a ∈ log, ∃ l d, a.result = .ok l ∧ l.pattern = Lexer.joined digits.rules ∧
      s.catalogue.find? "c" = some d ∧ d.rules.map (·.pattern) = ["[a-z]+"] ∧ d.key = a.key ∧
      s.lexer "c" = (.ok l, s) := by
  intro s log
  obtain ⟨-, hkept, hnames⟩ := used_kept .empty {} replacing
  have hlog : log.map (fun a => (a.key, a.succeeds)) =
      [("doc", true), ("code", false), ("code", false), ("doc", true), ("code", true)] := by
    decide +kernel
  have hlast : log.any fun a => a.key = "code" &&
      a.result.toOption.any (·.pattern = Lexer.joined digits.rules) := by
    decide +kernel
  have hfound : (s.catalogue.find? "c").any fun d =>
      d.key = "code" && d.rules.map (·.pattern) = ["[a-z]+"] := by
    decide +kernel
  obtain ⟨a, ha, hlast⟩ := List.any_eq_true.1 hlast
  obtain ⟨d, hd, hfound⟩ := (Option.any_eq_true _ _).1 hfound
  simp only [Bool.and_eq_true, decide_eq_true_eq] at hlast hfound
  obtain ⟨hkey, hlast⟩ := hlast
  obtain ⟨l, hl, hpattern⟩ := exists_ok_of_any hlast
  have hsame := hfound.1.trans hkey.symm
  exact ⟨hlog, by decide +kernel, hkept, a, ha, l, d, hl, of_decide_eq_true hpattern, hd, hfound.2,
    hsame, ((hnames "c" d hd).1 a ha hsame.symm l hl).1⟩

end Session

end ScopeLexer
