import HostFleet.Proofs.Http.Grouped
import HostFleet.Proofs.Proxy.Retarget
import HostFleet.Proofs.Text.Occurrence
import HostFleet.Proxy.Forward

/-! # The head that opens a tunnel

A raw tunnel is opened by a head that is written anew from the parts of a request. Whoever reads it line by
line finds the same parts, and behind its first empty line the body.

* `HeadParts.read?`: how a head is read.
* `HeadParts.read?_written`: lines without ends in them are read as they were written.
* `IsWellFormed`: requests as they may come; `IsUnbroken`: texts without the end of a line.
* `head_reads_back`: the head of a request, and what stands behind it.
* `interleaved_lines_move`: lines of a name that another line parts are brought together.
-/

set_option autoImplicit false

namespace HostFleet

namespace Http.Target

variable {t : Target} {s : List Char} {path text : String} {query : Option String}

theorem allowed_of_readParts (h : readParts s = some (path, query)) :
    (∀ c ∈ path.toList, isPathChar c = true) ∧
      ∀ c ∈ (query.getD "").toList, isQueryChar c = true := by
  unfold readParts at h
  extract_lets s' at h
  split at h
  · split at h
    · next hall =>
      cases h
      rw [String.toList_ofList]
      exact ⟨List.all_eq_true.1 hall, fun c hc => nomatch hc⟩
    · cases h
  · next before after hcut =>
    split at h
    · next hall =>
      cases h
      obtain ⟨hpath, hquery⟩ := Bool.and_eq_true_iff.1 hall
      rw [Option.getD_some, String.toList_ofList, String.toList_ofList]
      exact ⟨List.all_eq_true.1 hpath, List.all_eq_true.1 hquery⟩
    · cases h

/-- What is passed on of a target has only the characters that paths and queries may have. -/
theorem isPathChar_or_isQueryChar (h : parse? text = some t) :
    ∀ c ∈ t.pathAndQuery.toList, isPathChar c = true ∨ isQueryChar c = true := by
  obtain ⟨s, hparts⟩ := exists_readParts_of_parse? h
  obtain ⟨hpath, hquery⟩ := allowed_of_readParts hparts
  intro c hc
  unfold pathAndQuery at hc
  split at hc
  · next query heq =>
    rw [heq] at hquery
    rw [toList_withQuery] at hc
    rcases List.mem_append.1 hc with hc | hc
    · exact .inl (hpath c hc)
    · rcases List.mem_cons.1 hc with rfl | hc
      · exact .inr rfl
      · exact .inr (hquery c hc)
  · split at hc
    · rw [List.mem_singleton.1 hc]
      exact .inl rfl
    · exact .inl (hpath c hc)

end Http.Target

namespace Proxy

open Http (Headers Request Target)

/-! ## Reading a head line by line -/

/-- The lines of some bytes. -/
def splitLines : Bytes → List Bytes
  | 0x0D :: 0x0A :: rest => [] :: splitLines rest
  | b :: rest =>
    match splitLines rest with
    | [] => [[b]]
    | line :: more => (b :: line) :: more
  | [] => [[]]

/-- The end of a line and an empty line. -/
def emptyLine : Bytes := lineEnd ++ lineEnd

/-- The parts of a head. -/
structure HeadParts where
  method : Bytes
  target : Bytes
  version : Bytes
  lines : List (Bytes × Bytes)
  deriving DecidableEq, Repr

namespace HeadParts

/-- What stands between a name and a value. -/
def mark : Bytes := [0x3A, 0x20]

/-- Reads a head up to its first empty line: three words in the first line, and in every other a name and
a value. What stands behind is left. -/
def read? (bytes : Bytes) : Option (HeadParts × Bytes) :=
  (Text.cutAt emptyLine bytes).bind fun (head, behind) =>
    match splitLines head with
    | [] => none
    | first :: more =>
      match Text.fields 0x20 first with
      | [method, target, version] =>
        (more.mapM (Text.cutAt mark)).map fun lines => (⟨method, target, version, lines⟩, behind)
      | _ => none

def firstLine (p : HeadParts) : Bytes := p.method ++ 0x20 :: (p.target ++ 0x20 :: p.version)

def field (line : Bytes × Bytes) : Bytes := line.1 ++ (mark ++ line.2)

/-- The lines of a head. -/
def written (p : HeadParts) : Bytes := p.firstLine ++ p.lines.flatMap fun line => lineEnd ++ field line

end HeadParts

/-- The bytes do not end a line. -/
def IsUnbroken (bytes : Bytes) : Prop := 0x0D ∉ bytes ∧ 0x0A ∉ bytes

/-- Nothing in the parts ends a line, the words are words, and the names end where the values begin. -/
structure HeadParts.IsSound (p : HeadParts) : Prop where
  method : IsUnbroken p.method ∧ 0x20 ∉ p.method
  target : IsUnbroken p.target ∧ 0x20 ∉ p.target
  version : IsUnbroken p.version ∧ 0x20 ∉ p.version
  lines : ∀ line ∈ p.lines, (IsUnbroken line.1 ∧ 0x3A ∉ line.1) ∧ IsUnbroken line.2

theorem IsUnbroken.append {a b : Bytes} (ha : IsUnbroken a) (hb : IsUnbroken b) :
    IsUnbroken (a ++ b) := by
  unfold IsUnbroken
  rw [List.mem_append, List.mem_append, not_or, not_or]
  exact ⟨⟨ha.1, hb.1⟩, ⟨ha.2, hb.2⟩⟩

theorem isUnbroken_mark : IsUnbroken HeadParts.mark := ⟨by decide, by decide⟩

theorem splitLines_cons_of_ne {b : UInt8} (hb : b ≠ 0x0D) {s line : Bytes} {more : List Bytes}
    (h : splitLines s = line :: more) : splitLines (b :: s) = (b :: line) :: more := by
  unfold splitLines
  split
  · next heq => exact absurd (List.cons.inj heq).1 hb
  · next heq =>
    obtain ⟨rfl, rfl⟩ := List.cons.inj heq
    rw [h]
  · next heq => cases heq

theorem splitLines_of_unbroken {line : Bytes} (h : IsUnbroken line) : splitLines line = [line] := by
  induction line with
  | nil => rfl
  | cons b line ih =>
    have hne : b ≠ 0x0D := fun heq => h.1 (heq ▸ List.mem_cons_self)
    exact splitLines_cons_of_ne hne (ih ⟨fun hmem => h.1 (List.mem_cons_of_mem b hmem),
      fun hmem => h.2 (List.mem_cons_of_mem b hmem)⟩)

theorem splitLines_append {line : Bytes} (h : IsUnbroken line) (s : Bytes) :
    splitLines (line ++ (lineEnd ++ s)) = line :: splitLines s := by
  induction line with
  | nil => rfl
  | cons b line ih =>
    have hne : b ≠ 0x0D := fun heq => h.1 (heq ▸ List.mem_cons_self)
    exact splitLines_cons_of_ne hne (ih ⟨fun hmem => h.1 (List.mem_cons_of_mem b hmem),
      fun hmem => h.2 (List.mem_cons_of_mem b hmem)⟩)

variable {line : Bytes} {more : List Bytes}

theorem splitLines_lines (hline : IsUnbroken line) (hmore : ∀ l ∈ more, IsUnbroken l) :
    splitLines (line ++ more.flatMap fun l => lineEnd ++ l) = line :: more := by
  induction more generalizing line with
  | nil =>
    rw [List.flatMap_nil, List.append_nil]
    exact splitLines_of_unbroken hline
  | cons l more ih =>
    rw [List.flatMap_cons, List.append_assoc, splitLines_append hline,
      ih (hmore l List.mem_cons_self) fun l' hl' => hmore l' (List.mem_cons_of_mem l hl')]

/-- The first empty line is the one behind all lines. -/
theorem cutAt_emptyLine (hline : IsUnbroken line) (hmore : ∀ l ∈ more, IsUnbroken l ∧ l ≠ [])
    (body : Bytes) :
    Text.cutAt emptyLine ((line ++ more.flatMap fun l => lineEnd ++ l) ++ (emptyLine ++ body)) =
      some (line ++ more.flatMap fun l => lineEnd ++ l, body) := by
  induction more generalizing line with
  | nil =>
    rw [List.flatMap_nil, List.append_nil]
    have hcut := Text.cutAt_append_of_not_mem hline.1 [0x0A, 0x0D, 0x0A] (emptyLine ++ body)
    rw [show (0x0D :: [0x0A, 0x0D, 0x0A] : Bytes) = emptyLine from rfl, Text.cutAt_append_self] at hcut
    rw [hcut, Option.map_some, List.append_nil]
  | cons l more ih =>
    obtain ⟨hl, hne⟩ := hmore l List.mem_cons_self
    have hrest := ih hl fun l' hl' => hmore l' (List.mem_cons_of_mem l hl')
    obtain ⟨c, l, rfl⟩ := List.exists_cons_of_ne_nil hne
    have hc : c ≠ 0x0D := fun heq => hl.1 (heq ▸ List.mem_cons_self)
    -- the end of the line is followed by a byte that begins no line end
    have hfirst : ∀ s : Bytes, ¬emptyLine <+: 0x0D :: 0x0A :: c :: s := by
      intro s hprefix
      have hsame : [0x0D, 0x0A] <+: c :: s :=
        (List.cons_prefix_cons.1 (List.cons_prefix_cons.1 hprefix).2).2
      exact hc (List.cons_prefix_cons.1 hsame).1.symm
    have hsecond : ∀ s : Bytes, ¬emptyLine <+: 0x0A :: c :: s := fun s hprefix =>
      absurd (List.cons_prefix_cons.1 hprefix).1 (by decide)
    have hcut := Text.cutAt_append_of_not_mem hline.1 [0x0A, 0x0D, 0x0A]
      (lineEnd ++ ((c :: l ++ more.flatMap fun l => lineEnd ++ l) ++ (emptyLine ++ body)))
    rw [show (0x0D :: [0x0A, 0x0D, 0x0A] : Bytes) = emptyLine from rfl] at hcut
    simp only [lineEnd, List.cons_append, List.nil_append] at hcut hrest ⊢
    rw [Text.cutAt_cons_of_not_prefix (hfirst _), Text.cutAt_cons_of_not_prefix (hsecond _), hrest] at hcut
    simpa using hcut

namespace HeadParts

variable {p q : HeadParts}

theorem fields_firstLine (h : p.IsSound) :
    Text.fields 0x20 p.firstLine = [p.method, p.target, p.version] := by
  unfold firstLine
  rw [Text.fields_append_cons h.method.2, Text.fields_append_cons h.target.2,
    Text.fields_of_not_mem h.version.2]

theorem cutAt_field {line : Bytes × Bytes} (h : 0x3A ∉ line.1) :
    Text.cutAt mark (field line) = some line := by
  have hcut := Text.cutAt_append_of_not_mem h [0x20] (mark ++ line.2)
  rw [show (0x3A :: [0x20] : Bytes) = mark from rfl, Text.cutAt_append_self, Option.map_some,
    List.append_nil] at hcut
  exact hcut

theorem mapM_cutAt (h : ∀ line ∈ p.lines, 0x3A ∉ line.1) :
    (p.lines.map field).mapM (Text.cutAt mark) = some p.lines := by
  obtain ⟨method, target, version, lines⟩ := p
  induction lines with
  | nil => rfl
  | cons line lines ih =>
    rw [List.map_cons, List.mapM_cons, cutAt_field (h line List.mem_cons_self),
      ih fun line' hline' => h line' (List.mem_cons_of_mem line hline')]
    rfl

theorem isUnbroken_firstLine (h : p.IsSound) : IsUnbroken p.firstLine := by
  have hspace : IsUnbroken [0x20] := ⟨by decide, by decide⟩
  exact h.method.1.append (hspace.append (h.target.1.append (hspace.append h.version.1)))

theorem isUnbroken_field (h : p.IsSound) : ∀ l ∈ p.lines.map field, IsUnbroken l ∧ l ≠ [] := by
  intro l hl
  obtain ⟨line, hline, rfl⟩ := List.mem_map.1 hl
  obtain ⟨⟨hname, -⟩, hvalue⟩ := h.lines line hline
  refine ⟨hname.append (isUnbroken_mark.append hvalue), ?_⟩
  exact List.append_ne_nil_of_right_ne_nil line.1 (List.cons_ne_nil _ _)

theorem written_eq (p : HeadParts) :
    p.written = p.firstLine ++ (p.lines.map field).flatMap fun l => lineEnd ++ l := by
  rw [List.flatMap_map]
  rfl

theorem cutAt_written (h : p.IsSound) (body : Bytes) :
    Text.cutAt emptyLine (p.written ++ (emptyLine ++ body)) = some (p.written, body) := by
  rw [written_eq]
  exact cutAt_emptyLine (isUnbroken_firstLine h) (isUnbroken_field h) body

/-- What is written of sound parts is read as these parts, whatever stands behind the empty line. -/
theorem read?_written (h : p.IsSound) (body : Bytes) :
    read? (p.written ++ (emptyLine ++ body)) = some (p, body) := by
  have hlines : splitLines p.written = p.firstLine :: p.lines.map field := by
    rw [written_eq]
    exact splitLines_lines (isUnbroken_firstLine h) fun l hl => (isUnbroken_field h l hl).1
  have hmapM := mapM_cutAt fun line hline => (h.lines line hline).1.2
  unfold read?
  rw [cutAt_written h body]
  simp only [Option.bind_some, hlines, fields_firstLine h, hmapM, Option.map_some]

/-- There is one way to read what is written. -/
theorem written_injective (hp : p.IsSound) (hq : q.IsSound) (h : p.written = q.written) : p = q := by
  have hread := read?_written hp []
  rw [h, read?_written hq []] at hread
  injection hread with hread
  exact (congrArg Prod.fst hread).symm

end HeadParts

/-! ## Requests -/

/-- The bytes are a word of the first line or the name of a line. -/
def IsToken (bytes : Bytes) : Prop := bytes ≠ [] ∧ ∀ b ∈ bytes, Http.Head.isTokenByte b = true

/-- Method, target and lines are such as a head can have. -/
structure IsWellFormed (request : Request) : Prop where
  method : IsToken (Bytes.ofText request.method)
  target : ∃ text, Target.parse? text = some request.target
  lines : ∀ line ∈ request.headers,
    IsToken (Bytes.ofText line.1) ∧ ∀ b ∈ line.2, Http.Head.isValueByte b = true

/-- Lines as they are written. -/
def linesOf (h : Headers) : List (Bytes × Bytes) := h.map fun line => (Bytes.ofText line.1, line.2)

/-- The parts of the head for a request: its own, and a line for the host in front if it has none. -/
def partsOf (host : String) (request : Request) : HeadParts where
  method := Bytes.ofText request.method
  target := Bytes.ofText request.target.pathAndQuery
  version := Bytes.ofText "HTTP/1.1"
  lines :=
    if request.headers.has "host" then linesOf request.headers.grouped
    else (Bytes.ofText "host", Bytes.ofText host) :: linesOf request.headers.grouped

theorem IsToken.not_mem {bytes : Bytes} (h : IsToken bytes) {b : UInt8}
    (hb : Http.Head.isTokenByte b = false) : b ∉ bytes := by
  intro hmem
  rw [h.2 b hmem] at hb
  cases hb

theorem IsToken.isUnbroken {bytes : Bytes} (h : IsToken bytes) : IsUnbroken bytes :=
  ⟨h.not_mem (by decide +kernel), h.not_mem (by decide +kernel)⟩

theorem isUnbroken_of_isValueByte {bytes : Bytes}
    (h : ∀ b ∈ bytes, Http.Head.isValueByte b = true) : IsUnbroken bytes :=
  ⟨fun hmem => absurd (h _ hmem) (by decide), fun hmem => absurd (h _ hmem) (by decide)⟩

theorem not_mem_ofText_pathAndQuery {request : Request} (h : IsWellFormed request) {c : Char}
    (hc : Text.Punycode.isAscii c = true) (hpath : Target.isPathChar c = false)
    (hquery : Target.isQueryChar c = false) :
    UInt8.ofNat c.toNat ∉ Bytes.ofText request.target.pathAndQuery := by
  obtain ⟨text, htext⟩ := h.target
  rw [Bytes.mem_ofText_iff hc]
  intro hmem
  rcases Target.isPathChar_or_isQueryChar htext c hmem with hallowed | hallowed
  · rw [hpath] at hallowed
    cases hallowed
  · rw [hquery] at hallowed
    cases hallowed

variable {host : String} {request : Request}

theorem isSound_partsOf (hrequest : IsWellFormed request) (hhost : IsUnbroken (Bytes.ofText host)) :
    (partsOf host request).IsSound := by
  have hspace := not_mem_ofText_pathAndQuery hrequest (c := ' ') rfl rfl rfl
  have hreturn := not_mem_ofText_pathAndQuery hrequest (c := '\r') rfl rfl rfl
  have hfeed := not_mem_ofText_pathAndQuery hrequest (c := '\n') rfl rfl rfl
  have hversion : (0x0D ∉ Bytes.ofText "HTTP/1.1" ∧ 0x0A ∉ Bytes.ofText "HTTP/1.1") ∧
      0x20 ∉ Bytes.ofText "HTTP/1.1" := by decide +kernel
  have hname : (0x0D ∉ Bytes.ofText "host" ∧ 0x0A ∉ Bytes.ofText "host") ∧
      0x3A ∉ Bytes.ofText "host" := by decide +kernel
  refine ⟨⟨hrequest.method.isUnbroken, hrequest.method.not_mem (by decide +kernel)⟩,
    ⟨⟨hreturn, hfeed⟩, hspace⟩, hversion, ?_⟩
  have hgiven : ∀ line ∈ linesOf request.headers.grouped,
      (IsUnbroken line.1 ∧ 0x3A ∉ line.1) ∧ IsUnbroken line.2 := by
    intro line hline
    obtain ⟨given, hmem, rfl⟩ := List.mem_map.1 hline
    obtain ⟨hname, hvalue⟩ := hrequest.lines given (Headers.mem_grouped_iff.1 hmem)
    exact ⟨⟨hname.isUnbroken, hname.not_mem (by decide +kernel)⟩, isUnbroken_of_isValueByte hvalue⟩
  intro line hline
  unfold partsOf at hline
  split at hline
  · exact hgiven line hline
  · rcases List.mem_cons.1 hline with rfl | hline
    · exact ⟨hname, hhost⟩
    · exact hgiven line hline

theorem linesOf_withHost (host : String) (request : Request) :
    linesOf (withHost host request.headers.grouped) = (partsOf host request).lines := by
  unfold withHost partsOf
  rw [Headers.has_congr (Headers.values_grouped request.headers "host")]
  split <;> rfl

/-- Every line is written with its end; the parts have the end in front of each. -/
theorem flatMap_headerLine (lines : Headers) :
    lineEnd ++ lines.flatMap headerLine =
      ((linesOf lines).flatMap fun line => lineEnd ++ HeadParts.field line) ++ lineEnd := by
  have hmark : Bytes.ofText ": " = HeadParts.mark := by decide +kernel
  unfold linesOf
  induction lines with
  | nil => rfl
  | cons line lines ih =>
    rw [List.flatMap_cons, List.map_cons, List.flatMap_cons, List.append_assoc, ← ih]
    unfold headerLine HeadParts.field
    simp only [hmark, List.append_assoc]

theorem requestHead_eq (host : String) (request : Request) :
    requestHead host request = (partsOf host request).written ++ emptyLine := by
  have hfirst : Bytes.ofText (request.method ++ " " ++ request.target.pathAndQuery ++ " HTTP/1.1") =
      (partsOf host request).firstLine := by
    have hversion : Bytes.ofText " HTTP/1.1" = 0x20 :: Bytes.ofText "HTTP/1.1" := by decide +kernel
    have hspace : Bytes.ofText " " = [0x20] := by decide +kernel
    simp only [Bytes.ofText_append, hversion, hspace, List.append_assoc]
    rfl
  have hlines := flatMap_headerLine (withHost host request.headers.grouped)
  unfold requestHead HeadParts.written emptyLine
  rw [hfirst, List.append_assoc (partsOf host request).firstLine, hlines, linesOf_withHost]
  simp only [List.append_assoc]

theorem read?_requestHead (hrequest : IsWellFormed request) (hhost : IsUnbroken (Bytes.ofText host))
    (body : Bytes) :
    HeadParts.read? (requestHead host request ++ body) = some (partsOf host request, body) := by
  rw [requestHead_eq, List.append_assoc]
  exact HeadParts.read?_written (isSound_partsOf hrequest hhost) body

/-- No empty line stands before the end. -/
theorem eq_nil_of_requestHead_eq (hrequest : IsWellFormed request)
    (hhost : IsUnbroken (Bytes.ofText host)) {before after : Bytes}
    (h : requestHead host request = before ++ (emptyLine ++ after)) : after = [] := by
  have hcut := HeadParts.cutAt_written (isSound_partsOf hrequest hhost) []
  rw [List.append_nil, ← requestHead_eq] at hcut
  obtain ⟨heq, hfirst⟩ := Text.cutAt_eq_some_iff.1 hcut
  have hle : (partsOf host request).written.length ≤ before.length :=
    hfirst before after (h.trans (List.append_assoc before emptyLine after).symm)
  have hlength := congrArg List.length (heq.symm.trans h)
  simp only [List.length_append, List.length_nil] at hlength
  exact List.length_eq_zero_iff.1 (by omega)

/-! ## The head of a tunnel -/

/-- The head for a request is read as the method, the path with the query, the version and the lines of the
request, with one more line in front if it names no host, and no other parts are written alike. Its first
empty line is its end, so what follows is the body. The lines are those that came, in the order of the first
line of each name and, below a name, as they came; all stay in place only where those of a name already stand
together. -/
theorem head_reads_back (host : String) (request : Request) (hrequest : IsWellFormed request)
    (hhost : IsUnbroken (Bytes.ofText host)) :
    (∀ body, HeadParts.read? (requestHead host request ++ body) = some (partsOf host request, body)) ∧
    (∀ before after, requestHead host request = before ++ (emptyLine ++ after) → after = []) ∧
    (∀ parts : HeadParts, parts.IsSound → parts.written ++ emptyLine = requestHead host request →
      parts = partsOf host request) ∧
    (request.target.rawPath = "" → request.target.query = none →
      (partsOf host request).target = Bytes.ofText "/") ∧
    (request.headers.grouped.Perm request.headers ∧
      (∀ name, request.headers.grouped.values name = request.headers.values name) ∧
      (request.headers.grouped.map (·.1)).eraseDups = (request.headers.map (·.1)).eraseDups ∧
      (request.headers.grouped = request.headers ↔ request.headers.IsTogether)) ∧
    (¬(request.sized = true ∧ request.broken = true) →
      ∃ opening, tunnelOpening? host request = .ok opening ∧
        HeadParts.read? opening =
          some (partsOf host request, if request.sized then request.body else [])) := by
  have hread := read?_requestHead hrequest hhost
  refine ⟨hread, fun before after => eq_nil_of_requestHead_eq hrequest hhost, ?unique, ?root,
    ⟨Headers.grouped_perm _, Headers.values_grouped _, Headers.names_grouped _,
      Headers.grouped_eq_self_iff⟩, ?opening⟩
  case unique =>
    intro parts hparts heq
    rw [requestHead_eq] at heq
    exact HeadParts.written_injective hparts (isSound_partsOf hrequest hhost)
      (List.append_cancel_right heq)
  case root =>
    intro hpath hquery
    have htarget : request.target.pathAndQuery = "/" := by
      unfold Target.pathAndQuery
      rw [hpath, hquery]
      rfl
    exact congrArg Bytes.ofText htarget
  case opening =>
    intro hbody
    unfold tunnelOpening?
    cases hsized : request.sized with
    | false => exact ⟨_, rfl, by simpa using hread []⟩
    | true =>
      have hwhole : request.broken = false := by
        rw [← Bool.not_eq_true]
        exact fun hbroken => hbody ⟨hsized, hbroken⟩
      rw [hwhole]
      exact ⟨_, rfl, hread request.body⟩

/-- A request that attaches to a container, with two lines of one name that another parts. -/
def interleaved : Request where
  method := "POST"
  target := ⟨none, none, "/containers/abc/attach", none⟩
  version := .http11
  headers := [("host", [0x61]), ("x-a", [0x31]), ("x-b", [0x32]), ("x-a", [0x33])]
  body := [0x0D, 0x0A, 0x0D, 0x0A]
  sized := true
  broken := false

theorem isWellFormed_interleaved : IsWellFormed interleaved where
  method := by
    unfold IsToken
    decide +kernel
  target := ⟨"/containers/abc/attach", by decide +kernel⟩
  lines := by
    unfold IsToken
    decide +kernel

theorem isUnbroken_loopback : IsUnbroken (Bytes.ofText "127.0.0.1:2375") := by
  unfold IsUnbroken
  decide +kernel

/-- The body has an empty line of its own; the head ends at the one before it. -/
theorem head_reads_back_attach :
    IsWellFormed interleaved ∧ IsUnbroken (Bytes.ofText "127.0.0.1:2375") ∧
      ¬(interleaved.sized = true ∧ interleaved.broken = true) ∧
      ∃ opening, tunnelOpening? "127.0.0.1:2375" interleaved = .ok opening ∧
        HeadParts.read? opening =
          some (⟨Bytes.ofText "POST", Bytes.ofText "/containers/abc/attach", Bytes.ofText "HTTP/1.1",
            [(Bytes.ofText "host", [0x61]), (Bytes.ofText "x-a", [0x31]), (Bytes.ofText "x-a", [0x33]),
              (Bytes.ofText "x-b", [0x32])]⟩, [0x0D, 0x0A, 0x0D, 0x0A]) := by
  have hbody : ¬(interleaved.sized = true ∧ interleaved.broken = true) := by decide
  obtain ⟨opening, hopening, hread⟩ :=
    (head_reads_back "127.0.0.1:2375" interleaved isWellFormed_interleaved isUnbroken_loopback).2.2.2.2.2 hbody
  refine ⟨isWellFormed_interleaved, isUnbroken_loopback, hbody, opening, hopening, hread.trans ?_⟩
  decide +kernel

/-- Lines of one name do not stay where they came. -/
theorem interleaved_lines_move :
    ¬∀ (host : String) (request : Request), IsWellFormed request → IsUnbroken (Bytes.ofText host) →
      (HeadParts.read? (requestHead host request)).map (fun read => read.1.lines) =
        some (if request.headers.has "host" then linesOf request.headers
          else (Bytes.ofText "host", Bytes.ofText host) :: linesOf request.headers) := by
  intro hkept
  have hlines := hkept "127.0.0.1:2375" interleaved isWellFormed_interleaved isUnbroken_loopback
  revert hlines
  decide +kernel

end Proxy

end HostFleet
