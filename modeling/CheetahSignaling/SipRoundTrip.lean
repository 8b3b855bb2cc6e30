import CheetahSignaling.SipFraming

/-! A parsed message survives the wire: what the parser keeps of a start line and of the headers, the
encoder writes in a form that the parser reads again. Only the Content-Length values change, to the
length of the body. -/
namespace CheetahSignaling.SipRoundTrip

open CrlfLines SipParser SipEncoder Outcomes Str Option
open List hiding after count length toString

structure Plain (s : List Char) : Prop where
  space : ' ' ∉ s
  unbroken : ¬Broken s

theorem Plain.of_infix (plain : Plain t) (inside : s <:+: t) : Plain s :=
  ⟨fun member => plain.space (inside.mem member),fun broken => plain.unbroken (broken.of_infix inside)⟩

theorem Plain.join (left : Plain s) (right : Plain t) (other : c ≠ ' ' ∧ c ≠ '\r' ∧ c ≠ '\n') : Plain (s ++ c :: t) where
  space := by simp [left.space,right.space,other.1.symm]
  unbroken := not_broken_join left.unbroken right.unbroken other.2

theorem not_mem_number {n : Nat} (other : c.isDigit = false) : c ∉ (toString n).toList :=
  fun member => by simp [isDigit_number n c member] at other

theorem plain_number (n : Nat) : Plain (toString n).toList :=
  ⟨not_mem_number (by decide),not_broken_of_not_mem (not_mem_number (by decide))⟩

section Uri

variable {uri : SipUri}

theorem plain_parameters (parameters : List (String × Option String)) (front : Plain s)
    (plain : ∀ text ∈ parameters.flatMap fun (key,value) => key :: value.toList, Plain text.toList) :
    Plain (s ++ (String.join (parameters.map SipUri.encodeParameter)).toList) := by
  induction parameters generalizing s with
  | nil => simpa using front
  | cons parameter parameters ih =>
    obtain ⟨key,value⟩ := parameter
    rw [flatMap_cons,forall_mem_append,forall_mem_cons] at plain
    obtain ⟨⟨keyPlain,valuePlain⟩,rest⟩ := plain
    have named := front.join (c := ';') keyPlain (by decide)
    cases value with
    | none =>
      have := ih named rest
      simpa [SipUri.encodeParameter] using this
    | some value =>
      have valued := named.join (c := '=') (valuePlain value (by simp)) (by decide)
      have := ih valued rest
      simpa [SipUri.encodeParameter] using this

theorem plain_of_not_mem (space : ' ' ∉ s) (carriage : '\r' ∉ s) : Plain s := ⟨space,not_broken_of_not_mem carriage⟩

def authority (uri : SipUri) : List Char := (match uri.scheme with
    | .sip => "sip".toList
    | .sips => "sips".toList) ++ ':' ::
  match uri.user,uri.password with
  | none,_ => uri.host.toList
  | some user,none => user.toList ++ '@' :: uri.host.toList
  | some user,some password => user.toList ++ ':' :: (password.toList ++ '@' :: uri.host.toList)

theorem encode_eq (uri : SipUri) :
    uri.encode.toList = uri.port.elim (authority uri) (fun port => authority uri ++ ':' :: (toString port).toList) ++
      (String.join (uri.parameters.map SipUri.encodeParameter)).toList := by
  obtain ⟨scheme,user,password,host,port,parameters⟩ := uri
  cases scheme <;> cases user <;> cases password <;> cases port <;> simp [SipUri.encode,authority]

theorem plain_authority (plain : ∀ text ∈ uri.texts, Plain text.toList) : Plain (authority uri) := by
  obtain ⟨scheme,user,password,host,port,parameters⟩ := uri
  simp only [SipUri.texts,forall_mem_cons,forall_mem_append,mem_toList] at plain
  obtain ⟨hostPlain,⟨userPlain,passwordPlain⟩,-⟩ := plain
  refine Plain.join ?_ ?_ (by decide)
  · cases scheme
    · exact plain_of_not_mem (s := "sip".toList) (by decide) (by decide)
    · exact plain_of_not_mem (s := "sips".toList) (by decide) (by decide)
  match user,password with
  | none,_ => exact hostPlain
  | some user,none => exact (userPlain user rfl).join hostPlain (by decide)
  | some user,some password =>
    exact (userPlain user rfl).join ((passwordPlain password rfl).join hostPlain (by decide)) (by decide)

theorem plain_encode (plain : ∀ text ∈ uri.texts, Plain text.toList) : Plain uri.encode.toList := by
  have front := plain_authority plain
  rw [encode_eq]
  refine plain_parameters uri.parameters ?_ fun text member => plain text ?_
  · cases uri.port with
    | none => exact front
    | some port => exact front.join (plain_number port) (by decide)
  · exact mem_cons_of_mem _ (mem_append_right _ member)

end Uri

theorem Method.name_of_parse (parsed : Method.parse raw = .ok method) : method.name = raw := by
  unfold Method.parse at parsed
  split at parsed
  all_goals first
    | (cases parsed; rfl)
    | (split at parsed
       · cases parsed; rfl
       · cases parsed)

theorem Method.slash_of_parse (parsed : Method.parse raw = .ok method) : '/' ∉ raw.toList := by
  unfold Method.parse at parsed
  split at parsed
  all_goals first
    | decide
    | (split at parsed
       · rename_i upper
         intro member
         exact absurd (all_eq_true.mp upper '/' member) (by decide)
       · cases parsed)

/-- What the encoder needs of a header to write it so that it is read again. -/
structure Kept (header : HeaderName × String) : Prop where
  parsed : HeaderName.parse header.1.asStr = header.1
  trimmed : trim header.1.asStr.toList = header.1.asStr.toList
  colon : ':' ∉ header.1.asStr.toList
  unbroken : ¬Broken header.1.asStr.toList
  value_trimmed : trim header.2.toList = header.2.toList
  value_unbroken : ¬Broken header.2.toList

theorem kept_known (name : HeaderName) (known : ∀ text, name ≠ .other text) :
    HeaderName.parse name.asStr = name ∧ trim name.asStr.toList = name.asStr.toList ∧ ':' ∉ name.asStr.toList ∧
      '\r' ∉ name.asStr.toList := by
  cases name with
  | other text => exact absurd rfl (known text)
  | _ => decide

theorem clampStr_short (short : s.utf8ByteSize ≤ limit) : clampStr s limit = s := if_pos short

theorem spelled_ne_other (spelled : HeaderName.spelled s = some name) : name ≠ .other text := by
  obtain ⟨spelling,found,rfl⟩ := map_eq_some_iff.mp spelled
  have member := mem_of_find?_eq_some found
  have all : ∀ spelling ∈ HeaderName.spellings, ∀ text, spelling.2 ≠ .other text := by
    simp [HeaderName.spellings]
  exact all spelling member text

theorem parse_other (parsed : HeaderName.parse s = .other text) :
    text = clampStr s HeaderName.maxHeaderNameBytes ∧ HeaderName.spelled text = none := by
  simp only [HeaderName.parse] at parsed
  cases spelled : HeaderName.spelled (clampStr s HeaderName.maxHeaderNameBytes) with
  | none =>
    rw [spelled] at parsed
    cases parsed
    exact ⟨rfl,spelled⟩
  | some name =>
    rw [spelled] at parsed
    exact absurd parsed (spelled_ne_other spelled)

theorem kept_name (short : (String.ofList (trim name)).utf8ByteSize ≤ HeaderName.maxHeaderNameBytes)
    (colon : ':' ∉ name) (unbroken : ¬Broken name) (read : HeaderName.parse (String.ofList (trim name)) = header) :
    HeaderName.parse header.asStr = header ∧ trim header.asStr.toList = header.asStr.toList ∧ ':' ∉ header.asStr.toList ∧
      ¬Broken header.asStr.toList := by
  by_cases known : ∀ text, header ≠ .other text
  · obtain ⟨parsed,trimmed,colon,carriage⟩ := kept_known header known
    exact ⟨parsed,trimmed,colon,not_broken_of_not_mem carriage⟩
  push Not at known
  obtain ⟨text,rfl⟩ := known
  obtain ⟨same,unspelled⟩ := parse_other read
  rw [clampStr_short short] at same
  have letters : text.toList = trim name := by rw [same,String.toList_ofList]
  refine ⟨?_,?_,?_,?_⟩
  · simp only [HeaderName.asStr,HeaderName.parse,clampStr_short (same ▸ short),unspelled]
    rfl
  · show trim text.toList = text.toList
    rw [letters,trim_trim]
  · show ':' ∉ text.toList
    rw [letters]
    exact fun member => colon (mem_of_mem_trim member)
  · show ¬Broken text.toList
    rw [letters]
    exact fun broken => unbroken (broken.of_infix trim_infix)

theorem not_broken_text (uncut : splitCrlf line = none) (read : Utf8.text line = some text) : ¬Broken text.toList := by
  rw [← splitCrlf_text,← Utf8.bytes_eq,Utf8.bytes_of_text read]
  exact uncut

def wireName (line : List UInt8) : Option String :=
  (Utf8.text line).bind fun text => (splitOnce [':'] text.toList).map fun halves => String.ofList (trim halves.1)

theorem kept_of_parsed {config : SipParserConfig} (uncut : splitCrlf line = none)
    (parsed : parseHeaderLine config none line = .ok header)
    (short : ∀ name ∈ wireName line, name.utf8ByteSize ≤ HeaderName.maxHeaderNameBytes) : Kept header := by
  obtain ⟨-,parsed⟩ := passed_of_ok parsed
  cases read : Utf8.text line with
  | none => rw [read] at parsed; cases parsed
  | some text =>
    simp only [read] at parsed
    obtain ⟨-,parsed⟩ := passed_of_ok parsed
    have unbroken := not_broken_text uncut read
    cases cut : splitOnce [':'] text.toList with
    | none => rw [cut] at parsed; cases parsed
    | some halves =>
      obtain ⟨name,value⟩ := halves
      simp only [cut,profileHas,any_none,Bool.and_false,Bool.false_eq_true,if_false] at parsed
      obtain ⟨headerName,headerValue⟩ := header
      obtain ⟨named,rfl⟩ := Prod.mk.inj (Except.ok.inj parsed)
      obtain ⟨before,after⟩ := splitOnce_infix cut
      have within := short (String.ofList (trim name)) (by simp [wireName,read,cut])
      obtain ⟨again,trimmed,colon,whole⟩ :=
        kept_name within (splitOnce_before cut) (fun broken => unbroken (broken.of_infix before)) named
      refine ⟨again,trimmed,colon,whole,?_,?_⟩
      · rw [String.toList_ofList,trim_trim]
      · rw [String.toList_ofList]
        exact fun broken => unbroken (broken.of_infix (Str.trim_infix.trans after))

/-- A header with the length of the body for every Content-Length. -/
def restate (bodyLength : Nat) : HeaderName × String → HeaderName × String
  | (.contentLength,_) => (.contentLength,toString bodyLength)
  | header => header

theorem headerLine_eq (bodyLength : Nat) (header : HeaderName × String) : (headerLine bodyLength header).toList =
      (restate bodyLength header).1.asStr.toList ++ ':' :: ' ' :: (restate bodyLength header).2.toList := by
  obtain ⟨name,value⟩ := header
  cases name <;> simp [headerLine,restate,HeaderName.asStr]

theorem trim_number (n : Nat) : trim (toString n).toList = (toString n).toList := by
  apply trim_of_ends
  · exact fun c first => isWhitespace_of_isDigit (isDigit_number n c (mem_of_mem_head? first))
  · exact fun c last => isWhitespace_of_isDigit (isDigit_number n c (mem_of_mem_getLast? last))

theorem Kept.restate (kept : Kept header) (bodyLength : Nat) : Kept (restate bodyLength header) := by
  unfold SipRoundTrip.restate
  split
  · exact ⟨kept.parsed,kept.trimmed,kept.colon,kept.unbroken,trim_number bodyLength,(plain_number bodyLength).unbroken⟩
  · exact kept

section HeaderLine

variable {config : SipParserConfig}

theorem Kept.uncut (kept : Kept header) (shape : line.toList = header.1.asStr.toList ++ ':' :: ' ' :: header.2.toList) :
    splitCrlf (Utf8.bytes line) = none ∧ Utf8.bytes line ≠ [] := by
  constructor
  · rw [Utf8.bytes_eq,splitCrlf_text,shape]
    refine not_broken_join kept.unbroken ?_ (by decide)
    exact not_broken_join (not_broken_of_not_mem not_mem_nil) kept.value_unbroken (by decide)
  intro empty
  have := congrArg List.length empty
  rw [Utf8.bytes_eq,shape] at this
  simp only [flatMap_append,flatMap_cons,length_append,length_nil,String.length_utf8EncodeChar] at this
  have := Char.utf8Size_pos ':'
  omega

theorem Kept.parse (kept : Kept header) (shape : line.toList = header.1.asStr.toList ++ ':' :: ' ' :: header.2.toList)
    (fits : line.utf8ByteSize ≤ config.maxHeaderLineBytes) : parseHeaderLine config none (Utf8.bytes line) = .ok header := by
  have head : ¬(line.toList.head? = some ' ' ∨ line.toList.head? = some '\t') := by
    rw [shape]
    cases letters : header.1.asStr.toList with
    | nil => simp
    | cons c name =>
      have first := trim_head kept.trimmed c (by simp [letters])
      simp only [cons_append,List.head?_cons,Option.some.injEq]
      rintro (rfl | rfl)
      · exact absurd first (by decide)
      · exact absurd first (by decide)
  have cut : splitOnce [':'] line.toList = some (header.1.asStr.toList,' ' :: header.2.toList) := by
    rw [shape]
    exact splitOnce_char kept.colon
  unfold parseHeaderLine
  rw [if_neg (Nat.not_lt.mpr (Utf8.length_bytes ▸ fits)),Utf8.text_bytes]
  simp [if_neg head,cut,trim_cons (c := ' ') rfl,kept.trimmed,kept.value_trimmed,kept.parsed,profileHas]

end HeaderLine

section Block

variable {config : SipParserConfig} {headers : SipHeaders}

theorem take_two (filled : line ≠ []) (uncut : splitCrlf line = none) :
    (line ++ 13 :: 10 :: after).take 2 ≠ [13,10] := by
  intro blank
  have shape := take_append_drop 2 (line ++ 13 :: 10 :: after)
  have found := splitCrlf_line uncut after
  rw [blank] at shape
  rw [← shape] at found
  cases found
  exact filled rfl

theorem Reads.loop (reads : Reads config rest lines rest') (headers : SipHeaders) (enough : rest.length < fuel)
    (few : count + lines.length ≤ config.maxHeaders)
    (small : blockSize + rest.length ≤ config.maxHeaderBlockBytes + rest'.length + 2) :
    ∃ offset, headerLoop config none fuel consumed count blockSize headers rest =
      some (located offset (endHeaders config (headers ++ lines) rest')) := by
  induction reads generalizing fuel consumed count blockSize headers with
  | @blank rest =>
    obtain ⟨fuel,rfl⟩ := Nat.exists_eq_succ_of_ne_zero (Nat.ne_zero_of_lt enough)
    simp only [length_cons] at small
    have blank : (13 :: 10 :: rest).take 2 = [13,10] := rfl
    refine ⟨consumed + 2,?_⟩
    rw [headerLoop,if_neg (by omega),if_neg (by omega),if_neg (by simp),if_pos blank,append_nil]
    rfl
  | @line line header after lines rest' filled uncut parsed later ih =>
    obtain ⟨fuel,rfl⟩ := Nat.exists_eq_succ_of_ne_zero (Nat.ne_zero_of_lt enough)
    have shorter := later.length
    simp only [length_append,length_cons] at small enough few
    obtain ⟨offset,read⟩ : ∃ offset, headerLoop config none fuel (consumed + (line.length + 2)) (count + 1)
        (blockSize + (line.length + 2)) (headers ++ [header]) after =
          some (located offset (endHeaders config (headers ++ [header] ++ lines) rest')) :=
      ih (headers ++ [header]) (by omega) (by omega) (by omega)
    refine ⟨offset,?_⟩
    rw [headerLoop,if_neg (by omega),if_neg (by omega),if_neg (by simp; omega),if_neg (take_two filled uncut),
      splitCrlf_line uncut after]
    simp [parsed,read]

variable (lines : List String) (body : List UInt8)

def block : List UInt8 := lines.foldr (fun line rest => Utf8.bytes line ++ 13 :: 10 :: rest) (13 :: 10 :: body)

theorem length_block :
    (block lines body).length = (lines.map fun line => line.utf8ByteSize + 2).sum + body.length + 2 := by
  induction lines with
  | nil => simp [block]
  | cons line lines ih =>
    have step : (block (line :: lines) body).length = line.utf8ByteSize + ((block lines body).length + 2) := by
      rw [block,foldr_cons,length_append,Utf8.length_bytes]
      rfl
    rw [step,ih,map_cons,sum_cons]
    omega

theorem bytes_crlf : Utf8.bytes crlf = [13,10] := by decide

theorem bytes_block : Utf8.bytes (String.join (lines.map (· ++ crlf)) ++ crlf) ++ body = block lines body := by
  induction lines with
  | nil =>
    rfl
  | cons line lines ih =>
    rw [map_cons,String.join_cons,String.append_assoc,Utf8.bytes_append,Utf8.bytes_append,bytes_crlf,append_assoc,ih]
    simp [block]

theorem reads_block (kept : ∀ header ∈ headers, Kept header)
    (fits : ∀ header ∈ headers, (headerLine bodyLength header).utf8ByteSize ≤ config.maxHeaderLineBytes) (body : List UInt8) :
    Reads config (block (headers.map (headerLine bodyLength)) body) (headers.map (restate bodyLength)) body := by
  induction headers with
  | nil => exact .blank
  | cons header headers ih =>
    rw [forall_mem_cons] at kept fits
    have again := kept.1.restate bodyLength
    have shape := headerLine_eq bodyLength header
    obtain ⟨uncut,filled⟩ := again.uncut shape
    exact .line filled uncut (again.parse shape fits.1) (ih kept.2 fits.2)

theorem same_contentLength (name : HeaderName) : name.same .contentLength = true ↔ name = .contentLength := by
  cases name <;> simp [HeaderName.same]

theorem get_restate (present : ∃ header ∈ headers, header.1 = .contentLength) :
    SipHeaders.get (headers.map (restate bodyLength)) .contentLength = some (toString bodyLength) := by
  induction headers with
  | nil => obtain ⟨header,member,-⟩ := present; cases member
  | cons header headers ih =>
    obtain ⟨name,value⟩ := header
    by_cases here : name = .contentLength
    · subst here
      rfl
    have other : restate bodyLength (name,value) = (name,value) := by
      cases name with
      | contentLength => exact absurd rfl here
      | _ => rfl
    have skipped : name.same .contentLength = false := by
      rw [Bool.eq_false_iff,Ne,same_contentLength]
      exact here
    rw [map_cons,other]
    obtain ⟨header,member,named⟩ := present
    rcases mem_cons.mp member with rfl | later
    · exact absurd named here
    · have := ih ⟨header,later,named⟩
      simpa [SipHeaders.get,SipHeaders.getAll,skipped] using this

end Block

def Started : SipMessage → Prop
  | .request line _ _ =>
    Method.parse line.method.name = .ok line.method ∧ Plain line.method.name.toList ∧ Plain line.uri.encode.toList
  | .response line _ _ => line.code < 2 ^ 16 ∧ ¬Broken line.reason.toList

section StartLine

theorem parseResponse_started (unbroken : ¬Broken rest) (built : parseResponse rest headers body = .ok message) :
    Started message ∧ message.headers = headers ∧ message.body = ⟨body.toArray⟩ := by
  have one {code reason : List Char} (whole : ¬Broken reason)
    (built : parseResponse.build headers body code reason = .ok message) :
      Started message ∧ message.headers = headers ∧ message.body = ⟨body.toArray⟩ := by
    unfold parseResponse.build at built
    cases parsed : parseUnsigned (2 ^ 16) code with
    | none => rw [parsed] at built; cases built
    | some code =>
      rw [parsed] at built
      cases built
      refine ⟨⟨parseUnsigned_lt parsed,?_⟩,rfl,rfl⟩
      rwa [String.toList_ofList]
  unfold parseResponse at built
  cases cut : splitOnce [' '] rest with
  | none =>
    rw [cut] at built
    exact one (not_broken_of_not_mem not_mem_nil) built
  | some halves =>
    rw [cut] at built
    exact one (fun broken => unbroken (broken.of_infix (Str.splitOnce_infix cut).2)) built

theorem parseRequest_started (unbroken : ¬Broken line) (built : parseRequest none line headers body = .ok message) :
    Started message ∧ message.headers = headers ∧ message.body = ⟨body.toArray⟩ := by
  unfold parseRequest at built
  cases first : splitOnce [' '] line with
  | none => rw [first] at built; cases built
  | some halves =>
    obtain ⟨method,rest⟩ := halves
    cases second : splitOnce [' '] rest with
    | none => simp only [first,second] at built; cases built
    | some halves =>
      obtain ⟨uriText,version⟩ := halves
      simp only [first,second] at built
      obtain ⟨parsedMethod,methodParsed,uri,uriParsed,built⟩ := bind_eq_ok₂ built
      cases built
      have methodPlain : Plain method :=
        ⟨splitOnce_before first,fun broken => unbroken (broken.of_infix (Str.splitOnce_infix first).1)⟩
      have uriPlain : Plain uriText := ⟨splitOnce_before second,
        fun broken => unbroken (broken.of_infix ((Str.splitOnce_infix second).1.trans (Str.splitOnce_infix first).2))⟩
      have pieces := (SipUri.parse_pieces uriParsed).2
      rw [String.toList_ofList] at pieces
      refine ⟨⟨?_,?_,plain_encode fun text member => uriPlain.of_infix (pieces text member)⟩,rfl,rfl⟩
      · rw [Method.name_of_parse methodParsed]
        exact methodParsed
      · rw [Method.name_of_parse methodParsed,String.toList_ofList]
        exact methodPlain

theorem buildMessage_started (unbroken : ¬Broken line.toList)
    (built : buildMessage line headers body body.length none = .ok message) :
    Started message ∧ message.headers = headers ∧ message.body = ⟨body.toArray⟩ := by
  obtain ⟨-,built⟩ := passed_of_ok built
  cases stripped : stripLeading "SIP/2.0 ".toList line.toList with
  | none =>
    rw [stripped] at built
    exact parseRequest_started unbroken built
  | some rest =>
    rw [stripped] at built
    have inside : rest <:+: line.toList := by
      unfold stripLeading at stripped
      split at stripped
      · cases stripped
        exact (drop_suffix _ _).isInfix
      · cases stripped
    exact parseResponse_started (fun broken => unbroken (broken.of_infix inside)) built

def withHeaders (headers : SipHeaders) : SipMessage → SipMessage
  | .request line _ body => .request line headers body
  | .response line _ body => .response line headers body

def UriSurvives : SipMessage → Prop
  | .request line _ _ => SipUri.parse line.uri.encode = .ok line.uri
  | .response _ _ _ => True

theorem startLine_unbroken (started : Started message) : ¬Broken (startLine message).toList := by
  cases message with
  | request line headers body =>
    obtain ⟨-,method,uri⟩ := started
    have shape : (startLine (.request line headers body)).toList =
        line.method.name.toList ++ ' ' :: (line.uri.encode.toList ++ ' ' :: version.toList) := by
      simp [startLine,encodeRequestLine]
    rw [shape]
    exact not_broken_join method.unbroken
      (not_broken_join uri.unbroken (not_broken_of_not_mem (by decide)) (by decide)) (by decide)
  | response line headers body =>
    have shape : (startLine (.response line headers body)).toList =
        version.toList ++ ' ' :: ((toString line.code).toList ++ ' ' :: line.reason.toList) := by
      simp [startLine,encodeStatusLine]
    rw [shape]
    exact not_broken_join (not_broken_of_not_mem (by decide))
      (not_broken_join (plain_number line.code).unbroken started.2 (by decide)) (by decide)

theorem startLine_ne_nil : (startLine message).toList ≠ [] := by
  cases message with
  | request line headers body => simp [startLine,encodeRequestLine]
  | response line headers body => simp [startLine,encodeStatusLine]

theorem stripLeading_request (slash : '/' ∉ name) (space : ' ' ∉ name) :
    stripLeading "SIP/2.0 ".toList (name ++ ' ' :: rest) = none := by
  unfold stripLeading
  rw [if_neg]
  intro leading
  obtain ⟨more,whole⟩ := isPrefixOf_iff_prefix.mp leading
  have found : splitOnce [' '] (name ++ ' ' :: rest) = some (name,rest) := splitOnce_char space
  have other : splitOnce [' '] ("SIP/2.0".toList ++ ' ' :: more) = some ("SIP/2.0".toList,more) := splitOnce_char (by decide)
  have same : "SIP/2.0".toList ++ ' ' :: more = name ++ ' ' :: rest := by simpa using whole
  rw [same,found] at other
  cases other
  exact slash (by decide)

/-- The start line that the encoder writes is read again. -/
theorem buildMessage_startLine (started : Started message) (survives : UriSurvives message) (headers : SipHeaders) :
    buildMessage (startLine message) headers message.body.data.toList message.body.size none = .ok
    (withHeaders headers message) := by
  unfold buildMessage
  rw [if_neg (fun different => different rfl)]
  cases message with
  | request line old body =>
    obtain ⟨parsed,method,uri⟩ := started
    have slash := Method.slash_of_parse parsed
    have shape : (startLine (.request line old body)).toList =
        line.method.name.toList ++ ' ' :: (line.uri.encode.toList ++ ' ' :: version.toList) := by
      simp [startLine,encodeRequestLine]
    rw [shape,stripLeading_request slash method.space]
    simp only [parseRequest,splitOnce_char method.space,splitOnce_char uri.space,profileHas,any_none,
      Bool.false_eq_true,if_false,String.ofList_toList,parsed]
    rw [survives]
    rfl
  | response line old body =>
    have shape : (startLine (.response line old body)).toList =
        "SIP/2.0 ".toList ++ ((toString line.code).toList ++ ' ' :: line.reason.toList) := by
      simp [startLine,encodeStatusLine,version]
    have stripped (rest : List Char) : stripLeading "SIP/2.0 ".toList ("SIP/2.0 ".toList ++ rest) = some rest := by
      unfold stripLeading
      rw [if_pos (List.isPrefixOf_iff_prefix.mpr (prefix_append _ _)),drop_left]
    rw [shape,stripped]
    simp only [parseResponse,splitOnce_char (plain_number line.code).space,parseResponse.build,
      parseUnsigned_number started.1,String.ofList_toList]
    rfl

end StartLine

section Datagram

variable {config config' : SipParserConfig} {headers : SipHeaders}

def headerBlock : Nat → List UInt8 → List (List UInt8)
  | 0, _ => []
  | fuel + 1, rest =>
    match splitCrlf rest with
    | none => []
    | some (line,after) => if line = [] then [] else line :: headerBlock fuel after

def wireNames (data : List UInt8) : List String :=
  match splitCrlf (skipBlank data) with
  | none => []
  | some (_,rest) => (headerBlock rest.length rest).filterMap wireName

theorem Reads.kept (reads : Reads config rest headers body) (enough : rest.length ≤ fuel)
    (short : ∀ name ∈ (headerBlock fuel rest).filterMap wireName, name.utf8ByteSize ≤ HeaderName.maxHeaderNameBytes) :
    ∀ header ∈ headers, Kept header := by
  induction reads generalizing fuel with
  | blank => exact nofun
  | @line line header after headers rest filled uncut parsed later ih =>
    cases fuel with
    | zero => simp at enough
    | succ fuel =>
      rw [headerBlock,splitCrlf_line uncut] at short
      simp only [if_neg filled] at short
      refine forall_mem_cons.mpr ⟨?_,?_⟩
      · refine kept_of_parsed uncut parsed fun name named => short name ?_
        exact mem_filterMap.mpr ⟨line,mem_cons_self,named⟩
      rw [length_append,length_cons,length_cons] at enough
      have shorter : after.length ≤ fuel := by omega
      refine ih shorter fun name member => short name ?_
      obtain ⟨line',held,named⟩ := mem_filterMap.mp member
      exact mem_filterMap.mpr ⟨line',mem_cons_of_mem _ held,named⟩

theorem popBody_ok (given : popBody parser line headers length = (some (.ok message),parser'))
    (drained : parser'.buffer = []) :
    parser.buffer.length = length ∧ buildMessage line headers parser.buffer length parser.profile = .ok message := by
  unfold popBody at given
  split at given
  · cases given
  obtain ⟨built,rfl⟩ := Prod.mk.inj given
  have all : parser.buffer.length ≤ length := drop_eq_nil_iff.mp drained
  rw [take_of_length_le all] at built
  refine ⟨by omega,?_⟩
  cases made : buildMessage line headers parser.buffer length parser.profile with
  | error e => rw [made] at built; cases built
  | ok message' =>
    rw [made] at built
    cases built
    rfl

theorem popMessage_ok (given : popMessage ⟨config,none,.startLine,data⟩ = (some (.ok message),parser'))
    (drained : parser'.buffer = []) :
    ∃ line text rest lines headers body, splitCrlf (skipBlank data) = some (line,rest) ∧ Utf8.text line = some text ∧
      Reads config rest lines body ∧ endHeaders config lines body = .ok (headers,body.length,body) ∧
      buildMessage text headers body body.length none = .ok message := by
  have cases := startLine_cases config data
  cases start : parseStartLine config data with
  | mk out rest =>
    rw [start] at cases
    simp only [popMessage,start] at given
    cases cases with
    | complete found fits read =>
      simp only [popHeaders] at given
      cases parsed : parseHeaders config none rest with
      | none => rw [parsed] at given; cases given
      | some outcome =>
        rw [parsed] at given
        cases outcome with
        | error e => cases given
        | ok found =>
          obtain ⟨headers,length,body⟩ := found
          obtain ⟨lines,reads,ended⟩ := headerLoop_reads parsed
          obtain ⟨rfl,built⟩ := popBody_ok given drained
          exact ⟨_,_,rest,lines,headers,body,found,read,reads,ended,built⟩
    | garbled found fits read => cases given
    | long found long => cases given
    | refused uncut long => cases given
    | waits uncut short => cases given

theorem parseDatagram_ok (accepted : parseDatagram data config = .ok message) :
    ∃ parser', popMessage ⟨{ config with datagramMode := true },none,.startLine,data⟩ = (some (.ok message),parser') ∧
      parser'.buffer = [] := by
  obtain ⟨parser,fed,accepted⟩ := bind_eq_ok accepted
  obtain rfl := feed_ok fed
  have fresh : (newWithProfile { config with datagramMode := true } none).push data =
      ⟨{ config with datagramMode := true },none,.startLine,data⟩ := rfl
  rw [fresh] at accepted
  cases popped : popMessage ⟨{ config with datagramMode := true },none,.startLine,data⟩ with
  | mk out parser' =>
    simp only [popped] at accepted
    match out with
    | none =>
      dsimp only at accepted
      split at accepted
      · split at accepted
        · cases accepted
        · cases accepted
      · cases accepted
    | some (.error e) => cases accepted
    | some (.ok message') =>
      dsimp only at accepted
      split at accepted
      · rename_i drained
        cases accepted
        exact ⟨parser',rfl,drained⟩
      · cases accepted

structure Fits (config : SipParserConfig) (message : SipMessage) : Prop where
  startLine : (startLine message).utf8ByteSize ≤ config.maxStartLineBytes
  headers : message.headers.length ≤ config.maxHeaders
  lines : ∀ line ∈ headerLines message.headers message.body.size, line.utf8ByteSize ≤ config.maxHeaderLineBytes
  block : ((headerLines message.headers message.body.size).map fun line => line.utf8ByteSize + 2).sum ≤
    config.maxHeaderBlockBytes
  body : message.body.size ≤ config.maxBodyBytes
  /-- A length is a `usize`. -/
  word : message.body.size < 2 ^ 64
  buffer : (encodeMessage message).length ≤ config.maxBufferBytes

/-- The message with the length of its body for every Content-Length. -/
def restated (message : SipMessage) : SipMessage :=
  withHeaders (message.headers.map (restate message.body.size)) message

theorem kept_contentLength (n : Nat) : Kept (.contentLength,toString n) := by
  obtain ⟨parsed,trimmed,colon,carriage⟩ := kept_known .contentLength nofun
  exact ⟨parsed,trimmed,colon,not_broken_of_not_mem carriage,trim_number n,(plain_number n).unbroken⟩

theorem contentLength_kept (counted : contentLength config lines body = .ok (headers,n)) (kept : ∀ header ∈ lines, Kept header) :
    (∀ header ∈ headers, Kept header) ∧ ∃ header ∈ headers, header.1 = .contentLength := by
  unfold contentLength at counted
  cases found : SipHeaders.get lines .contentLength with
  | none =>
    simp only [found] at counted
    split at counted
    · cases counted
      refine ⟨?_,_,mem_append_right _ mem_cons_self,rfl⟩
      intro header member
      rcases mem_append.mp member with early | last
      · exact kept header early
      · rw [mem_singleton.mp last]
        exact kept_contentLength body.length
    · cases counted
  | some value =>
    simp only [found] at counted
    obtain ⟨-,counted⟩ := passed_of_ok counted
    split at counted
    · cases counted
      refine ⟨kept,?_⟩
      obtain ⟨header,member,-⟩ := mem_map.mp (mem_of_mem_head? found)
      obtain ⟨held,same⟩ := mem_filter.mp member
      exact ⟨header,held,(same_contentLength header.1).mp same⟩
    · cases counted

theorem contentLength_restate (present : ∃ header ∈ headers, header.1 = .contentLength) (word : n < 2 ^ 64) :
    contentLength config (headers.map (restate n)) body = .ok (headers.map (restate n),n) := by
  have filled : (toString n).toList ≠ [] := toList_number n ▸ Nat.toDigits_ne_nil
  simp only [contentLength,get_restate present,trim_number,if_neg filled,parseUnsigned_number word]

theorem headerLines_eq (present : ∃ header ∈ headers, header.1 = .contentLength) (bodyLength : Nat) :
    headerLines headers bodyLength = headers.map (headerLine bodyLength) := by
  obtain ⟨header,member,named⟩ := present
  have any : (headers.any fun header => header.1.same .contentLength) = true :=
    any_eq_true.mpr ⟨header,member,(same_contentLength _).mpr named⟩
  rw [headerLines,any,if_pos rfl,append_nil]

theorem encodeMessage_eq (present : ∃ header ∈ message.headers, header.1 = .contentLength) :
    encodeMessage message = Utf8.bytes (startLine message) ++ 13 :: 10 ::
      block (message.headers.map (headerLine message.body.size)) message.body.data.toList := by
  rw [encodeMessage,encodeHeaders,headerLines_eq present,Utf8.bytes_append,append_assoc,bytes_block,
    Utf8.bytes_append,bytes_crlf,append_assoc]
  rfl

theorem popBody_whole (parser : SipParser) (whole : parser.buffer.length = length)
    (built : buildMessage line headers parser.buffer length parser.profile = .ok message) :
    popBody parser line headers length = (some (.ok message),{ parser with state := .startLine, buffer := [] }) := by
  unfold popBody
  rw [if_neg (Nat.not_lt.mpr (Nat.le_of_eq whole.symm)),take_of_length_le (Nat.le_of_eq whole),
    drop_of_length_le (Nat.le_of_eq whole),built]
  rfl

theorem bytes_ne_nil (filled : s.toList ≠ []) : Utf8.bytes s ≠ [] := by
  intro empty
  have same : some s = some "" := by rw [← Utf8.text_bytes s,empty]; decide
  cases same
  exact filled rfl

theorem parseStartLine_encode (started : Started message) (fits : (startLine message).utf8ByteSize ≤ config.maxStartLineBytes) :
    parseStartLine config (Utf8.bytes (startLine message) ++ 13 :: 10 :: rest) = (some (.ok (startLine message)),rest) := by
  have uncut : splitCrlf (Utf8.bytes (startLine message)) = none := by
    rw [Utf8.bytes_eq,splitCrlf_text]
    exact startLine_unbroken started
  have filled : Utf8.bytes (startLine message) ≠ [] := bytes_ne_nil startLine_ne_nil
  have found : splitCrlf (skipBlank (Utf8.bytes (startLine message) ++ 13 :: 10 :: rest)) =
      some (Utf8.bytes (startLine message),rest) := by
    rw [skipBlank_eq (take_two filled uncut)]
    exact splitCrlf_line uncut rest
  rw [parseStartLine_line found fits,Utf8.text_bytes,elim_some]

theorem parseHeaders_encode (kept : ∀ header ∈ message.headers, Kept header)
    (present : ∃ header ∈ message.headers, header.1 = .contentLength) (fits : Fits config message) :
    parseHeaders config none (block (message.headers.map (headerLine message.body.size)) message.body.data.toList) =
      some (.ok (message.headers.map (restate message.body.size),message.body.size,message.body.data.toList)) := by
  have lines := headerLines_eq present message.body.size
  have reads : Reads config (block (message.headers.map (headerLine message.body.size)) message.body.data.toList)
      (message.headers.map (restate message.body.size)) message.body.data.toList :=
    reads_block kept (fun header member => fits.lines _ (lines ▸ mem_map_of_mem member)) _
  have few : 0 + (message.headers.map (restate message.body.size)).length ≤ config.maxHeaders := by
    rw [length_map,Nat.zero_add]
    exact fits.headers
  have small : 0 + (block (message.headers.map (headerLine message.body.size)) message.body.data.toList).length ≤
      config.maxHeaderBlockBytes + message.body.data.toList.length + 2 := by
    have room := fits.block
    rw [lines] at room
    rw [length_block]
    omega
  obtain ⟨offset,parsed⟩ := Reads.loop reads [] (Nat.lt_succ_self _) few small
  have ended : endHeaders config (message.headers.map (restate message.body.size)) message.body.data.toList =
      .ok (message.headers.map (restate message.body.size),message.body.size,message.body.data.toList) := by
    rw [endHeaders,contentLength_restate present fits.word]
    exact if_neg (Nat.not_lt.mpr fits.body)
  rw [nil_append,ended] at parsed
  exact parsed

theorem popMessage_encode (started : Started message) (survives : UriSurvives message)
    (kept : ∀ header ∈ message.headers, Kept header)
    (present : ∃ header ∈ message.headers, header.1 = .contentLength) (fits : Fits config message) :
    ∃ parser', popMessage ⟨config,none,.startLine,encodeMessage message⟩ = (some (.ok (restated message)),parser') ∧
      parser'.buffer = [] := by
  have built := buildMessage_startLine started survives (message.headers.map (restate message.body.size))
  have body := popBody_whole ⟨config,none,.startLine,message.body.data.toList⟩ rfl built
  refine ⟨⟨config,none,.startLine,[]⟩,?_,rfl⟩
  rw [encodeMessage_eq present]
  simp only [popMessage,parseStartLine_encode started fits.startLine,popHeaders,parseHeaders_encode kept present fits]
  exact body

/-- A message that `parse_datagram` accepts is read again from its encoded form. -/
theorem parse_encode (accepted : parseDatagram data config = .ok message)
    (names : ∀ name ∈ wireNames data, name.utf8ByteSize ≤ HeaderName.maxHeaderNameBytes) (survives : UriSurvives message)
    (fits : Fits config' message) : parseDatagram (encodeMessage message) config' = .ok (restated message) := by
  obtain ⟨parser',popped,drained⟩ := parseDatagram_ok accepted
  obtain ⟨line,text,rest,lines,headers,body,found,read,reads,ended,built⟩ := popMessage_ok popped drained
  obtain ⟨started,rfl,-⟩ := buildMessage_started (not_broken_text (splitCrlf_eq found).2 read) built
  have linesKept : ∀ header ∈ lines, Kept header := by
    simp only [wireNames,found] at names
    exact Reads.kept reads (Nat.le_refl _) names
  obtain ⟨kept,present⟩ := contentLength_kept (endHeaders_ok ended).1 linesKept
  have room : Fits { config' with datagramMode := true } message := { fits with }
  obtain ⟨again,encoded,empty⟩ := popMessage_encode started survives kept present room
  have fed : (newWithProfile { config' with datagramMode := true } none).feed (encodeMessage message) =
      .ok ⟨{ config' with datagramMode := true },none,.startLine,encodeMessage message⟩ := by
    have small := Nat.not_lt.mpr fits.buffer
    simp [feed,newWithProfile,if_neg small]
  simp [parseDatagram,parseDatagramWithProfile,fed,bind,Except.bind,encoded,empty]

end Datagram

namespace Sample

def data : List UInt8 := Utf8.bytes "\r\nINVITE sip:a@b:5060;lr SIP/2.0\r\nv:  x \r\nX-Tag : 1\r\nl: +2\r\n\r\nhi"

def message : SipMessage := .request ⟨.invite,⟨.sip,some "a",none,"b",some 5060,[("lr",none)]⟩⟩
    [(.via,"x"),(.other "X-Tag","1"),(.contentLength,"+2")] ⟨#[104,105]⟩

theorem invite_read_again :
    parseDatagram data {} = .ok message ∧ parseDatagram (encodeMessage message) {} = .ok (restated message) := by
  have accepted : parseDatagram data {} = .ok message := by decide +kernel
  refine ⟨accepted,parse_encode accepted ?_ ?_ ⟨?_,?_,?_,?_,?_,?_,?_⟩⟩
  · decide +kernel
  · show SipUri.parse _ = _
    decide +kernel
  all_goals decide +kernel

end Sample

end CheetahSignaling.SipRoundTrip
