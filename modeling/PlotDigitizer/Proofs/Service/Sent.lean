/-
Requests as a client sends them.

A target that is a path of the service asks for that path, whatever query or
fragment follows it, and also behind a scheme and any host that a request can
go to (`Target.ofText_plain`, `Target.resource_plain`), which a host beyond
ASCII is if it can be written in ASCII (`Target.Begins.beyond`). A body that is
sent as a text is read as that text. So whatever can be done at a path, a
client can ask for (`reaches_endpoint`).
-/
import PlotDigitizer.Proofs.Encoding
import PlotDigitizer.Proofs.Service.HostName
import PlotDigitizer.Proofs.Service.Requests

namespace PlotDigitizer
namespace Service

namespace Target

/-! ## Parts of a target -/

/-- Whether a character is no control character of ASCII. -/
def isShown (c : Char) : Bool := 0x20 ≤ c.toNat && c.toNat != 0x7F

/-- Whether a character neither ends a path nor starts an escape. -/
def isUnmarked (c : Char) : Bool := c != '?' && c != '#' && c != '%'

def isSchemeChar (c : Char) : Bool := c.isAlphanum || c == '+' || c == '.' || c == '-'

/-- Whether a character neither ends a host nor the user before it, and starts
no address in brackets. -/
def isHostChar (c : Char) : Bool :=
  c != '/' && c != '?' && c != '#' && c != '@' && c != ':' && c != '['

/-- What may stand before a path, with the scheme and the host in it: nothing,
or both, the host being one that a request can go to. -/
inductive Begins : List Char → List Char → List Char → Prop where
  | here : Begins [] [] []
  | there {first : Char} {more host : List Char} (hfirst : first.isAlpha = true)
    (hmore : (first :: more).all isSchemeChar = true) (hne : host ≠ [])
    (hshown : host.all isShown = true) (hchars : host.all isHostChar = true)
    (hhost : Host.fault? (host.map .char) = none)
    (hname : Host.nameFault? (host.map .char) = none) :
    Begins (first :: more ++ ':' :: '/' :: '/' :: host) (first :: more) host

/-- A path that is asked for as it is: it starts with one slash, nothing in it
ends a path or escapes, and it has no dot segments. -/
structure IsPlain (path : List Char) : Prop where
  rooted : ∃ c rest, path = '/' :: c :: rest ∧ c ≠ '/'
  shown : path.all isShown = true
  unmarked : path.all isUnmarked = true
  dotless : ∀ s ∈ (path.map Letter.char).splitOn (.char '/'), s ≠ [.char '.'] ∧ s ≠ [.char '.', .char '.']
  short : 1 + escapedLength pathMarks (path.map .char).tail ≤ maxLength

/-- What may follow a path: nothing, or a query, or a fragment. -/
structure IsTail (tail : List Char) : Prop where
  opens : ∀ c ∈ tail.head?, c = '?' ∨ c = '#'
  shown : tail.all isShown = true
  short : escapedLength queryMarks (tail.map .char) ≤ maxLength

/-- A reference without user and port. -/
def Reference.plain (scheme host path tail : List Char) : Reference where
  scheme := scheme.map .char
  user := []
  host := host.map .char
  port := []
  path := path.map .char
  tail := tail.map .char

variable {before scheme host path tail : List Char}

theorem IsPlain.ne (h : IsPlain path) {c : Char} (hc : c ∈ path) : c ≠ '?' ∧ c ≠ '#' ∧ c ≠ '%' := by
  simpa [isUnmarked, and_assoc] using List.all_eq_true.1 h.unmarked c hc

theorem isHostChar_iff {c : Char} :
    isHostChar c = true ↔ c ≠ '/' ∧ c ≠ '?' ∧ c ≠ '#' ∧ c ≠ '@' ∧ c ≠ ':' ∧ c ≠ '[' := by
  simp [isHostChar, and_assoc]

theorem isShown_of_isSchemeChar {c : Char} (h : isSchemeChar c = true) : isShown c = true := by
  have hcontrol : ∀ n ∈ 0x7F :: List.range 0x20, isSchemeChar (Char.ofNat n) = false := by decide
  by_contra hshown
  have hmem : c.toNat ∈ 0x7F :: List.range 0x20 := by
    rw [List.mem_cons, List.mem_range]
    simp only [isShown, Bool.and_eq_true, decide_eq_true_eq, bne_iff_ne] at hshown
    omega
  have hnone := hcontrol c.toNat hmem
  rw [Char.ofNat_toNat, h] at hnone
  cases hnone

theorem Begins.ne (h : Begins before scheme host) {c : Char} (hc : c ∈ before) : c ≠ '?' ∧ c ≠ '#' := by
  cases h with
  | here => cases hc
  | there _ hmore _ _ hchars =>
    simp only [List.mem_append, List.mem_cons] at hc
    rcases hc with hc | rfl | rfl | rfl | hc
    · have hscheme := List.all_eq_true.1 hmore c (by simpa using hc)
      constructor <;> rintro rfl <;> exact absurd hscheme (by decide)
    · decide
    · decide
    · decide
    · obtain ⟨-, hquery, hfragment, -⟩ := isHostChar_iff.1 (List.all_eq_true.1 hchars c hc)
      exact ⟨hquery, hfragment⟩

theorem isBracketed_host (hchars : host.all isHostChar = true) :
    Host.isBracketed (host.map .char) = false := by
  cases host with
  | nil => rfl
  | cons c host =>
    simp [Host.isBracketed, isHostChar_iff.1 (List.all_eq_true.1 hchars c List.mem_cons_self)]

/-- A host beyond ASCII may stand before a path if it can be written in
ASCII. -/
theorem Begins.beyond {first : Char} {more host : List Char} (hfirst : first.isAlpha = true)
    (hmore : (first :: more).all isSchemeChar = true) (hshown : host.all isShown = true)
    (hchars : host.all isHostChar = true) (hgroups : Host.isFourGroups (host.map .char) = false)
    (hbeyond : ∃ c ∈ host, 128 ≤ c.toNat) (hwritten : (HostName.write? (host.map Char.toNat)).isSome = true) :
    Begins (first :: more ++ ':' :: '/' :: '/' :: host) (first :: more) host := by
  have hcodes : (host.map Letter.char).map Letter.code = host.map Char.toNat := by
    rw [List.map_map]
    rfl
  have hfault : Host.fault? (host.map .char) = none := by
    simp only [Host.fault?, hgroups, isBracketed_host hchars, hcodes, hwritten, Bool.or_true, if_true,
      Bool.false_eq_true, if_false]
  have hlow : (host.all fun c => c.toNat < 128) = false := by
    obtain ⟨c, hc, hlarge⟩ := hbeyond
    rw [List.all_eq_false]
    exact ⟨c, hc, by simpa using hlarge⟩
  have hname : Host.nameFault? (host.map .char) = none := by
    have hread : (host.map Letter.char).mapM Letter.char? = some host := Text.chars?_ofChars host
    simp only [Host.nameFault?, hread, hlow, Bool.and_false, Bool.false_eq_true, if_false]
  refine .there hfirst hmore ?_ hshown hchars hfault hname
  rintro rfl
  obtain ⟨c, hc, -⟩ := hbeyond
  cases hc

/-! ## Texts cut in two -/

theorem span_map {p : Letter → Bool} {cs : List Char} {ls : List Letter}
    (h : ∀ c ∈ cs, p (.char c) = true) (hstop : ∀ l ∈ ls.head?, p l = false) :
    (cs.map Letter.char ++ ls).span p = (cs.map .char, ls) :=
  span_append (List.forall_mem_map.2 h) hstop

theorem splitScheme_there {first : Char} {more : List Char} (hfirst : first.isAlpha = true)
    (hmore : (first :: more).all isSchemeChar = true) (ls : List Letter) :
    splitScheme ((first :: more).map .char ++ .char ':' :: ls) = ((first :: more).map .char, ls) := by
  have hstop : ∀ l ∈ (Letter.char ':' :: ls).head?, l.char?.any isSchemeChar = false := by
    rintro _ ⟨⟩
    rfl
  have hspan : ((first :: more).map Letter.char ++ .char ':' :: ls).span
      (fun l => l.char?.any fun c => c.isAlphanum || c == '+' || c == '.' || c == '-')
        = ((first :: more).map .char, .char ':' :: ls) := span_map (List.all_eq_true.1 hmore) hstop
  unfold splitScheme
  dsimp only
  rw [hspan]
  exact if_pos hfirst

theorem splitScheme_here (ls : List Letter) :
    splitScheme (.char '/' :: ls) = ([], .char '/' :: ls) := rfl

theorem splitAuthority_there (hhost : host.all isHostChar = true) (hpath : IsPlain path) :
    splitAuthority (.char '/' :: .char '/' :: (host.map .char ++ path.map .char))
      = (host.map .char, path.map .char) := by
  refine span_map (fun c hc => ?_) ?_
  · simp [isHostChar_iff.1 (List.all_eq_true.1 hhost c hc)]
  · obtain ⟨c, rest, rfl, -⟩ := hpath.rooted
    rintro _ ⟨⟩
    rfl

theorem splitUser_host (hhost : host.all isHostChar = true) :
    splitUser (host.map .char) = ([], host.map .char) := by
  have hchars : ∀ l ∈ (host.map Letter.char).reverse, (l != .char '@') = true := by
    rw [← List.map_reverse, List.forall_mem_map]
    intro c hc
    simp [isHostChar_iff.1 (List.all_eq_true.1 hhost c (List.mem_reverse.1 hc))]
  rw [splitUser, span_eq_self hchars]

theorem splitHost_host (hhost : host.all isHostChar = true) :
    splitHost (host.map .char) = (host.map .char, []) := by
  have hopen : ¬((host.map Letter.char).head? = some (.char '[')
      && (host.map Letter.char).contains (.char ']')) = true := by
    cases host with
    | nil => simp
    | cons c host =>
      simp [isHostChar_iff.1 (List.all_eq_true.1 hhost c List.mem_cons_self)]
  have hchars : ∀ l ∈ host.map Letter.char, (l != .char ':') = true := by
    rw [List.forall_mem_map]
    intro c hc
    simp [isHostChar_iff.1 (List.all_eq_true.1 hhost c hc)]
  rw [splitHost, if_neg hopen, span_eq_self hchars]
  rfl

/-! ## Texts that stay as they are -/

theorem characters_map (cs : List Char) : characters (cs.map .char) = .ok cs := by
  induction cs with
  | nil => rfl
  | cons c cs ih =>
    rw [List.map_cons, characters, ih]
    rfl

theorem unescape_eq {cs : List Char} (h : ∀ c ∈ cs, c ≠ '%') : unescape cs = cs := by
  induction cs with
  | nil => rfl
  | cons c cs ih =>
    obtain ⟨hc, hcs⟩ := List.forall_mem_cons.1 h
    rw [unescape, ih hcs]
    exact fun a b rest hpercent _ => hc hpercent

theorem resolveFrom_eq {segments : List (List Letter)}
    (h : ∀ s ∈ segments, s ≠ [.char '.'] ∧ s ≠ [.char '.', .char '.']) (done : List (List Letter)) :
    resolveFrom done segments = done.reverse ++ segments := by
  induction segments generalizing done with
  | nil => rw [resolveFrom, List.append_nil]
  | cons s segments ih =>
    obtain ⟨⟨hdot, hdots⟩, hrest⟩ := List.forall_mem_cons.1 h
    rw [resolveFrom, if_neg hdot, if_neg hdots, ih hrest, List.reverse_cons, List.append_assoc]
    rfl

theorem resolve_eq {path : List Letter}
    (h : ∀ s ∈ path.splitOn (.char '/'), s ≠ [.char '.'] ∧ s ≠ [.char '.', .char '.']) :
    resolve path = path := by
  rw [resolve, resolveFrom_eq h, List.reverse_nil, List.nil_append]
  exact List.intercalate_splitOn _

theorem escapedLength_le {marks : String} {ls ls' : List Letter} (h : ls.Sublist ls') :
    escapedLength marks ls ≤ escapedLength marks ls' := by
  have hfold (width : Letter → Nat) : ∀ m n, m ≤ n →
      ls.foldl (fun k l => k + width l) m ≤ ls'.foldl (fun k l => k + width l) n := by
    induction h with
    | slnil => exact fun m n h => h
    | cons l _ ih => exact fun m n h => ih m (n + width l) (Nat.le_trans h (Nat.le_add_right _ _))
    | cons_cons l _ ih => exact fun m n h => ih _ _ (Nat.add_le_add_right h _)
  exact hfold _ 0 0 (Nat.le_refl 0)

theorem control?_eq_none {cs : List Char} (h : cs.all isShown = true) :
    control? (cs.map .char) = none := by
  have hfind : (cs.map Letter.char).find? (fun l => l.code < 32 || l.code == 127) = none := by
    rw [List.find?_eq_none]
    intro l hl
    obtain ⟨c, hc, rfl⟩ := List.mem_map.1 hl
    obtain ⟨hlow, hdelete⟩ := by simpa [isShown] using List.all_eq_true.1 h c hc
    simp [Letter.code, Nat.not_lt.2 hlow, hdelete]
  simp only [control?, hfind, Option.bind_none]

/-! ## Targets -/

theorem Begins.isShown (h : Begins before scheme host) : before.all isShown = true := by
  cases h with
  | here => rfl
  | @there first more _ _ hmore _ hshown =>
    have hscheme : (first :: more).all Target.isShown = true :=
      List.all_eq_true.2 fun c hc => isShown_of_isSchemeChar (List.all_eq_true.1 hmore c hc)
    have hmarks : Target.isShown ':' = true ∧ Target.isShown '/' = true := by decide
    simp only [List.all_append, List.all_cons, hscheme, hmarks, hshown, Bool.and_self]

theorem ofLetters_plain (hbefore : Begins before scheme host) (hpath : IsPlain path) (htail : IsTail tail) :
    Reference.ofLetters ((before ++ path ++ tail).map .char) = .plain scheme host path tail := by
  have hkept : ∀ c ∈ before ++ path, (Letter.char c != .char '?' && Letter.char c != .char '#') = true := by
    intro c hc
    suffices h : c ≠ '?' ∧ c ≠ '#' by simp [h]
    rcases List.mem_append.1 hc with hc | hc
    · exact hbefore.ne hc
    · exact ⟨(hpath.ne hc).1, (hpath.ne hc).2.1⟩
  have hspan : ((before ++ path ++ tail).map Letter.char).span (fun l => l != .char '?' && l != .char '#')
      = ((before ++ path).map .char, tail.map .char) := by
    rw [List.map_append]
    refine span_map hkept fun l hl => ?_
    cases tail with
    | nil => cases hl
    | cons c tail =>
      cases hl
      rcases htail.opens c rfl with rfl | rfl <;> rfl
  simp only [Reference.ofLetters, hspan]
  cases hbefore with
  | here =>
    obtain ⟨c, rest, rfl, hc⟩ := hpath.rooted
    have hauthority : splitAuthority (('/' :: c :: rest).map .char) = ([], ('/' :: c :: rest).map .char) := by
      simp [splitAuthority, hc]
    simp only [List.nil_append, List.map_cons, splitScheme_here] at hauthority ⊢
    rw [hauthority]
    rfl
  | @there first more _ hfirst hmore hne hshown hchars hhost hname =>
    have hscheme := splitScheme_there hfirst hmore
      (.char '/' :: .char '/' :: (host.map .char ++ path.map .char))
    simp only [List.map_append, List.map_cons, List.append_assoc, List.cons_append] at hscheme ⊢
    simp only [hscheme, splitAuthority_there hchars hpath, splitUser_host hchars, splitHost_host hchars]
    rfl

theorem fault?_plain (hbefore : Begins before scheme host) (hpath : IsPlain path) (tail : List Char) :
    (Reference.plain scheme host path tail).fault? = none := by
  cases hbefore with
  | here =>
    obtain ⟨c, rest, rfl, hc⟩ := hpath.rooted
    have hhost : Host.fault? [] = none := rfl
    have hslashes : [Letter.char '/', .char '/'].isPrefixOf (('/' :: c :: rest).map .char) = false := by
      simp [List.isPrefixOf_cons_cons, hc.symm]
    simp only [Reference.fault?, Reference.plain, List.map_nil, hhost, hslashes]
    rfl
  | there _ _ _ _ _ hhost _ =>
    simp only [Reference.fault?, Reference.plain, hhost]
    rfl

theorem ownPath_plain (hbefore : Begins before scheme host) (hpath : IsPlain path) (tail : List Char) :
    (Reference.plain scheme host path tail).ownPath = path.map .char := by
  cases hbefore with
  | here => rfl
  | there => exact resolve_eq hpath.dotless

theorem dropSlashes_plain (hpath : IsPlain path) :
    (path.map Letter.char).dropWhile (· == .char '/') = (path.map .char).tail := by
  obtain ⟨c, rest, rfl, hc⟩ := hpath.rooted
  rw [List.map_cons, List.dropWhile_cons_of_pos rfl, List.map_cons,
    List.dropWhile_cons_of_neg (by simp [hc])]
  rfl

theorem rooted_plain (hbefore : Begins before scheme host) (hpath : IsPlain path) (tail : List Char) :
    (Reference.plain scheme host path tail).rooted = path.map .char := by
  have hcons : Letter.char '/' :: (path.map .char).tail = path.map .char := by
    obtain ⟨c, rest, rfl, -⟩ := hpath.rooted
    rfl
  rw [Reference.rooted, ownPath_plain hbefore hpath, dropSlashes_plain hpath, hcons,
    resolve_eq hpath.dotless, ite_self]

theorem lengthFault?_plain (hbefore : Begins before scheme host) (hpath : IsPlain path)
    (htail : IsTail tail) : (Reference.plain scheme host path tail).lengthFault? = none := by
  have hquery : (Reference.plain scheme host path tail).query.Sublist (tail.map .char) := by
    unfold Reference.query
    split
    · exact (List.takeWhile_sublist _).trans (List.tail_sublist _)
    · exact List.nil_sublist _
  have hqueryLength : ¬maxLength < escapedLength queryMarks (Reference.plain scheme host path tail).query :=
    Nat.not_lt.2 (Nat.le_trans (escapedLength_le hquery) htail.short)
  simp only [Reference.lengthFault?, ownPath_plain hbefore hpath, dropSlashes_plain hpath,
    if_neg hqueryLength, if_neg (Nat.not_lt.2 hpath.short), ite_self]

/-- A request goes to a host in ASCII that starts no address, and to one beyond
ASCII that can be written in ASCII. -/
theorem hostFault?_plain (hbefore : Begins before scheme host) (path tail : List Char) :
    (Reference.plain scheme host path tail).hostFault? = none := by
  cases hbefore with
  | here => rfl
  | there _ _ _ _ hchars _ hname =>
    have hunwritten : Host.unwritten? (host.map .char) = none := by
      rw [Host.unwritten?, isBracketed_host hchars]
      rfl
    simp only [Reference.hostFault?, Reference.plain, hunwritten, hname, Option.map_none, Option.or_none,
      ite_self]

theorem ofText_plain (hbefore : Begins before scheme host) (hpath : IsPlain path) (htail : IsTail tail)
    (hlength : (before ++ path ++ tail).length ≤ maxLength) :
    Reference.ofText (.ofChars (before ++ path ++ tail)) = .ok (.plain scheme host path tail) := by
  have hshort : ¬maxLength < ((before ++ path ++ tail).map Letter.char).length := by
    rw [List.length_map]
    exact Nat.not_lt.2 hlength
  have hcontrol : control? ((before ++ path ++ tail).map .char) = none :=
    control?_eq_none (by simp only [List.all_append, hbefore.isShown, hpath.shown, htail.shown, Bool.and_self])
  have huser : characters (Reference.plain scheme host path tail).user = .ok [] := rfl
  have hown : characters (Reference.plain scheme host path tail).ownPath = .ok path := by
    rw [ownPath_plain hbefore hpath, characters_map]
  have hend : characters (Reference.plain scheme host path tail).tail = .ok tail := characters_map tail
  simp only [Reference.ofText, Text.letters_ofChars, ofLetters_plain hbefore hpath htail, if_neg hshort,
    hcontrol, huser, fault?_plain hbefore hpath, hown, hend, lengthFault?_plain hbefore hpath htail]
  rfl

theorem resource_plain (hbefore : Begins before scheme host) (hpath : IsPlain path) (tail : List Char) :
    (Reference.plain scheme host path tail).resource = .ok (String.ofList path) := by
  have hne : path.isEmpty = false := by
    obtain ⟨c, rest, rfl, -⟩ := hpath.rooted
    rfl
  rw [Reference.resource, rooted_plain hbefore hpath, characters_map, ok_bind, hne,
    unescape_eq fun c hc => (hpath.ne hc).2.2]
  rfl

end Target

/-! ## The paths of the service -/

theorem isPlain_of_mem_routes {path : String} {methods : List (Text × Endpoint)}
    (h : (path, methods) ∈ routes) : Target.IsPlain path.toList := by
  simp only [routes, List.mem_cons, List.not_mem_nil, or_false, Prod.mk.injEq] at h
  rcases h with ⟨rfl, -⟩ | ⟨rfl, -⟩ | ⟨rfl, -⟩ | ⟨rfl, -⟩ | ⟨rfl, -⟩ | ⟨rfl, -⟩ | ⟨rfl, -⟩ <;>
  exact ⟨⟨_, _, rfl, by decide⟩, by decide, by decide, by decide, by decide⟩

theorem lookup_routes {path : String} {methods : List (Text × Endpoint)} {method : Text} {e : Endpoint}
    (hpath : (path, methods) ∈ routes) (hmethod : (method, e) ∈ methods) :
    methodsAt? path = some methods ∧ methods.lookup method.upper = some e := by
  have hall : routes.all (fun p => methodsAt? p.1 == some p.2 &&
      p.2.all fun m => p.2.lookup m.1.upper == some m.2) = true := by decide
  have hone := List.all_eq_true.1 hall _ hpath
  rw [Bool.and_eq_true, beq_iff_eq] at hone
  exact ⟨hone.1, by simpa using List.all_eq_true.1 hone.2 _ hmethod⟩

section

variable {before scheme host tail : List Char}

/-- What is sent for a plain path: its method, that path, and the body in bytes. -/
theorem ofTarget_plain {path : List Char} (hbefore : Target.Begins before scheme host)
    (hpath : Target.IsPlain path) (htail : Target.IsTail tail)
    (hlength : (before ++ path ++ tail).length ≤ Target.maxLength) (method : Text) (body : Option (List Char)) :
    Request.ofTarget method (.ofChars (before ++ path ++ tail)) (body.map .ofChars) =
      .ok ⟨method, String.ofList path, body.map (·.flatMap String.utf8EncodeChar)⟩ := by
  simp only [Request.ofTarget, Target.ofText_plain hbefore hpath htail hlength,
    Target.resource_plain hbefore hpath, Target.hostFault?_plain hbefore, ok_bind]
  cases body with
  | none => rfl
  | some cs =>
    simp only [Option.map_some, Option.mapM_some, Text.utf8_ofChars]
    rfl

/-- **Every endpoint can be asked for.** A client that sends a method to its
path asks for that endpoint, whatever query or fragment follows the path, and
whatever scheme and host stand before it; and what is read of the body is the
text that was sent. -/
theorem reaches_endpoint {path : String} {methods : List (Text × Endpoint)} {method : Text} {e : Endpoint}
    (hpath : (path, methods) ∈ routes) (hmethod : (method, e) ∈ methods)
    (hbefore : Target.Begins before scheme host) (htail : Target.IsTail tail)
    (hlength : (before ++ path.toList ++ tail).length ≤ Target.maxLength) (body : Option (List Char)) :
    ∃ r, Request.ofTarget method (.ofChars (before ++ path.toList ++ tail)) (body.map .ofChars) = .ok r ∧
      r.endpoint? = some e ∧
      ∀ cs, body = some cs → (∀ c ∈ cs, c.toNat ≠ 0) → cs.head? ≠ some '\uFEFF' →
        ∃ bytes, r.body = some bytes ∧ Encoding.decode? bytes (Encoding.detect bytes) = some (cs.map .char) := by
  obtain ⟨hmethods, hendpoint⟩ := lookup_routes hpath hmethod
  refine ⟨_, ofTarget_plain hbefore (isPlain_of_mem_routes hpath) htail hlength method body, ?_, ?_⟩
  · rw [Request.endpoint?, String.ofList_toList, hmethods]
    exact hendpoint
  · rintro cs rfl hzero hmark
    exact ⟨_, rfl, Encoding.decode?_utf8 hzero hmark⟩

end

end Service
end PlotDigitizer
