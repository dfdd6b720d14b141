import Ibctl.Agent.RequestReader

/-! A request of the client on its way into the agent, in whatever reads its bytes arrive. -/
namespace Ibctl.Agent
open JsonGrammar (ascii)

section Client

/-- A path as the client forms it: printed ASCII without a blank. -/
structure RequestPath where
  text : List Char
  given : text ≠ []
  printed : ∀ c ∈ text, 0x20 < c.toNat ∧ c.toNat < 0x7F

def RequestPath.bytes (path : RequestPath) : List Nat := path.text.map Char.toNat

/-- `/windows/{}/…` -/
def RequestPath.inWindow (windowId : Nat) (action : List Char)
    (printed : action.all (fun c => 0x20 < c.toNat && c.toNat < 0x7F) = true) : RequestPath where
  text := "/windows/".toList ++ Decimal.write windowId ++ '/' :: action
  given := by simp
  printed := by
    have start : ("/windows/".toList).all (fun c => 0x20 < c.toNat && c.toNat < 0x7F) = true := by decide
    intro c among
    rcases List.mem_append.mp among with among | among
    · rcases List.mem_append.mp among with among | among
      · simpa using List.all_eq_true.mp start c among
      · have bounds := Decimal.isDigit_bounds (Decimal.isDigit_of_mem_write among)
        omega
    · rcases List.mem_cons.mp among with rfl | among
      · decide
      · simpa using List.all_eq_true.mp printed c among

/-- The JSON text of a body. There is no empty one. -/
structure JsonBody where
  text : List Char
  written : text ≠ []

def JsonBody.ofMembers (members : List Member) : JsonBody := ⟨writeBody members,List.cons_ne_nil _ _⟩

inductive ClientRequest where
  | get (path : RequestPath)
  | post (path : RequestPath) (body : JsonBody)

namespace ClientRequest

def method : ClientRequest → List Nat
  | get _ => ascii "GET"
  | post .. => ascii "POST"

def path : ClientRequest → RequestPath
  | get path => path
  | post path _ => path

def body : ClientRequest → List Char
  | get _ => []
  | post _ body => body.text

/-- `json_body.len()` counts bytes. -/
def bodyBytes (request : ClientRequest) : List Nat := Utf8.encode request.body

def line (request : ClientRequest) : List Nat :=
  request.method ++ ' '.toNat :: (request.path.bytes ++ ' '.toNat :: ascii "HTTP/1.1")

def requestLine (request : ClientRequest) : List Nat := request.line ++ ascii "\r\n"

def headers : ClientRequest → List Nat
  | get _ => ascii "Host: localhost\r\nConnection: close\r\n\r\n"
  | post path body =>
    ascii "Host: localhost\r\nContent-Type: application/json\r\nContent-Length: " ++
      digits (post path body).bodyBytes.length ++ ascii "\r\nConnection: close\r\n\r\n"

/-- The bytes on the wire. -/
def bytes (request : ClientRequest) : List Nat :=
  request.requestLine ++ (request.headers ++ request.bodyBytes)

end ClientRequest

/-- The reads in which bytes arrive. The sender keeps its side open and sends no more. -/
structure Arrival (bytes : List Nat) where
  reads : List (List Nat)
  nonempty : ∀ read ∈ reads, read ≠ []
  whole : reads.flatten = bytes

/-- No read ends behind the request line and before the end of the headers. -/
def HeadersTogether (request : ClientRequest) (reads : List (List Nat)) : Prop :=
  ∀ n, (reads.take n).flatten.length < request.requestLine.length ∨
    request.requestLine.length + request.headers.length ≤ (reads.take n).flatten.length

end Client

section Lines

variable (request : ClientRequest)

theorem mem_line {u : Nat} (among : u ∈ request.line) : 0x20 ≤ u ∧ u < 0x80 := by
  have fixed : ∀ u ∈ ascii "GET" ++ ascii "POST" ++ ' '.toNat :: ascii "HTTP/1.1", 0x20 ≤ u ∧ u < 0x80 := by
    decide
  have verb : request.method ⊆ ascii "GET" ++ ascii "POST" := by
    cases request with
    | get path => exact List.subset_append_left _ _
    | post path body => exact List.subset_append_right _ _
  unfold ClientRequest.line at among
  rcases List.mem_append.mp among with inMethod | among
  · exact fixed u (List.mem_append_left _ (verb inMethod))
  · rcases List.mem_cons.mp among with rfl | among
    · decide
    · rcases List.mem_append.mp among with inPath | inVersion
      · obtain ⟨c,written,rfl⟩ := List.mem_map.mp inPath
        have printed := request.path.printed c written
        omega
      · exact fixed u (List.mem_append_right _ inVersion)

theorem requestLine_ascii : ∀ u ∈ request.requestLine, u < 0x80 := by
  have ending : ∀ u ∈ ascii "\r\n", u < 0x80 := by decide
  intro u among
  rcases List.mem_append.mp among with among | among
  · exact (mem_line request among).2
  · exact ending u among

theorem not_subscribe (rest : List Nat) : ¬ ascii "SUBSCRIBE" <+: request.requestLine ++ rest := by
  have other {first : Nat} {more : List Nat} (verb : request.method = first :: more) (differs : 'S'.toNat ≠ first) :
      ¬ ascii "SUBSCRIBE" <+: request.requestLine ++ rest := by
    unfold ClientRequest.requestLine ClientRequest.line
    rw [verb]
    exact fun start => differs (List.cons_prefix_cons.mp start).1
  cases request with
  | get path => exact other rfl (by decide)
  | post path body => exact other rfl (by decide)

/-- A line feed comes with the last byte of the request line. -/
theorem no_lineFeed {data rest tail : List Nat} (short : data.length < request.requestLine.length)
    (whole : data ++ rest = request.requestLine ++ tail) : '\n'.toNat ∉ data := by
  have shape : request.requestLine = request.line ++ ['\r'.toNat] ++ ['\n'.toNat] := by
    rw [List.append_assoc]
    rfl
  rw [shape] at short whole
  have within : data <+: request.line ++ ['\r'.toNat] := by
    apply List.prefix_of_prefix_length_le (List.prefix_append data rest)
    · rw [whole,List.append_assoc]
      exact List.prefix_append _ _
    · rw [List.length_append,List.length_singleton] at short
      omega
  intro found
  rcases List.mem_append.mp (within.subset found) with among | among
  · exact absurd (mem_line request among).1 (by decide)
  · exact absurd among (by decide)

variable {request} {character : JavaCharacter}

/-- The read with the end of the request line, what comes with it and what comes later. -/
theorem handleClient_requestLine {data : List Nat} {reads : List (List Nat)} {tail : List Nat}
    (short : data.length < request.requestLine.length)
    (whole : data ++ reads.flatten = request.requestLine ++ tail) :
    ∃ early last later front, reads = early ++ last :: later ∧
      (data ++ early.flatten).length < request.requestLine.length ∧
      data ++ early.flatten ++ last = request.requestLine ++ front ∧ front ++ later.flatten = tail ∧
      handleClient character data reads =
        handleHttpRequest character (request.requestLine ++ Utf8.decode front) later := by
  induction reads generalizing data with
  | nil =>
    have lengths := congrArg List.length whole
    rw [List.flatten_nil,List.append_nil,List.length_append] at lengths
    omega
  | cons read reads ih =>
    have start : data <+: request.requestLine :=
      List.prefix_of_prefix_length_le ⟨_,whole⟩ (List.prefix_append _ _) short.le
    have decoded : data ++ Utf8.decode read = Utf8.decode (data ++ read) :=
      (Utf8.decode_append (fun u among => requestLine_ascii request u (start.subset among)) read).symm
    rw [List.flatten_cons,← List.append_assoc] at whole
    by_cases long : request.requestLine.length ≤ (data ++ read).length
    · obtain ⟨front,complete⟩ : request.requestLine <+: data ++ read :=
        List.prefix_of_prefix_length_le ⟨tail,whole.symm⟩ (List.prefix_append _ _) long
      rw [← complete,List.append_assoc,List.append_cancel_left_eq] at whole
      refine ⟨[],read,reads,front,rfl,by simpa using short,by simp [complete],whole,?_⟩
      have text : data ++ Utf8.decode read = request.requestLine ++ Utf8.decode front := by
        rw [decoded,← complete,Utf8.decode_append (requestLine_ascii request)]
      have lineFeed : '\n'.toNat ∈ request.requestLine ++ Utf8.decode front :=
        List.mem_append_left _ (List.mem_append_right _ (by decide))
      rw [handleClient,text]
      rw [if_neg (not_subscribe request _),if_pos lineFeed,ite_self]
    · have within : data ++ read <+: request.requestLine :=
        List.prefix_of_prefix_length_le ⟨_,whole⟩ (List.prefix_append _ _) (Nat.le_of_not_le long)
      have text : data ++ Utf8.decode read = data ++ read := by
        rw [decoded,Utf8.decode_ascii fun u among => requestLine_ascii request u (within.subset among)]
      have lineFeed := no_lineFeed request (Nat.lt_of_not_le long) whole
      have other : ¬ ascii "SUBSCRIBE" <+: data ++ read := fun start => by
        have began := start.trans within
        exact not_subscribe request [] (by rwa [List.append_nil])
      have headless : ¬ ascii "\r\n\r\n" <:+: data ++ read := fun occurs =>
        lineFeed (occurs.subset (by decide))
      obtain ⟨early,last,later,front,rfl,open_,complete,rest,handled⟩ := ih (Nat.lt_of_not_le long) whole
      refine ⟨read :: early,last,later,front,rfl,?_,?_,rest,?_⟩
      · rwa [List.flatten_cons,← List.append_assoc]
      · rwa [List.flatten_cons,← List.append_assoc]
      · rw [handleClient,text]
        rw [if_neg other,if_neg headless,if_neg lineFeed,handled]

end Lines

section Headers

variable (request : ClientRequest) {character : JavaCharacter}

/-- The words of the request line as the agent splits them. -/
theorem handleHttpRequest_requestLine (rest : List Nat) (later : List (List Nat)) :
    handleHttpRequest character (request.requestLine ++ rest) later =
      withBody character request.method request.path.bytes ((pieces (ascii "\r\n") 0 [] rest).rdropWhile (· = []))
        (request.requestLine ++ rest) later := by
  have get : ' '.toNat ∉ ascii "GET" ∧ ascii "GET" ≠ [] := by decide
  have post : ' '.toNat ∉ ascii "POST" ∧ ascii "POST" ≠ [] := by decide
  have verb : ' '.toNat ∉ request.method ∧ request.method ≠ [] := by
    cases request with
    | get path => exact get
    | post path body => exact post
  have target : ' '.toNat ∉ request.path.bytes := fun among => by
    obtain ⟨c,written,same⟩ := List.mem_map.mp among
    have printed := (request.path.printed c written).1
    rw [same] at printed
    exact absurd printed (by decide)
  have addressed : request.path.bytes ≠ [] := fun none => request.path.given (List.map_eq_nil_iff.mp none)
  have line : '\r'.toNat ∉ request.line := fun among => absurd (mem_line request among).1 (by decide)
  exact handleHttpRequest_line verb.1 target verb.2 addressed line rest later

theorem headers_ascii : ∀ u ∈ request.headers, u < 0x80 := by
  have get : ∀ u ∈ ascii "Host: localhost\r\nConnection: close\r\n\r\n", u < 0x80 := by decide
  have first : ∀ u ∈ ascii "Host: localhost\r\nContent-Type: application/json\r\nContent-Length: ", u < 0x80 := by
    decide
  have last : ∀ u ∈ ascii "\r\nConnection: close\r\n\r\n", u < 0x80 := by decide
  cases request with
  | get path => exact get
  | post path body =>
    intro u among
    rcases List.mem_append.mp among with among | among
    · rcases List.mem_append.mp among with among | among
      · exact first u among
      · have bounds := digits_bounds among
        omega
    · exact last u among

/-- However much of its headers comes with its first line, a `get` has no body. -/
theorem get_headers {path : RequestPath} {front : List Nat} (start : front <+: (ClientRequest.get path).headers) :
    headerValue (ascii "content-length") ((pieces (ascii "\r\n") 0 [] front).rdropWhile (· = [])) = none := by
  have all : (ascii "Host: localhost\r\nConnection: close\r\n\r\n").inits.all (fun front =>
      headerValue (ascii "content-length") ((pieces (ascii "\r\n") 0 [] front).rdropWhile (· = [])) = none) = true := by
    decide +kernel
  exact of_decide_eq_true (List.all_eq_true.mp all front ((List.mem_inits _ _).mpr start))

theorem postHeaders_lines (n : Nat) (rest : List Nat) :
    pieces (ascii "\r\n") 0 [] (ascii "Host: localhost\r\nContent-Type: application/json\r\nContent-Length: " ++
        digits n ++ ascii "\r\nConnection: close\r\n\r\n" ++ rest) =
      [ascii "Host: localhost",ascii "Content-Type: application/json",ascii "Content-Length: " ++ digits n] ++
        ascii "Connection: close" :: [] :: pieces (ascii "\r\n") 0 [] rest := by
  have number : '\r'.toNat ∉ ascii "Content-Length: " ++ digits n := fun among => by
    rcases List.mem_append.mp among with among | among
    · exact absurd among (by decide)
    · exact absurd (digits_bounds among).1 (by decide)
  have host := @pieces_line '\r'.toNat ['\n'.toNat] (ascii "Host: localhost") (by decide)
  have type_ := @pieces_line '\r'.toNat ['\n'.toNat] (ascii "Content-Type: application/json") (by decide)
  have length := @pieces_line '\r'.toNat ['\n'.toNat] _ number
  have close := @pieces_line '\r'.toNat ['\n'.toNat] (ascii "Connection: close") (by decide)
  have end_ := @pieces_line '\r'.toNat ['\n'.toNat] [] List.not_mem_nil
  have shape : ascii "Host: localhost\r\nContent-Type: application/json\r\nContent-Length: " ++
        digits n ++ ascii "\r\nConnection: close\r\n\r\n" ++ rest =
      ascii "Host: localhost" ++ '\r'.toNat :: (['\n'.toNat] ++ (ascii "Content-Type: application/json" ++
        '\r'.toNat :: (['\n'.toNat] ++ (ascii "Content-Length: " ++ digits n ++ '\r'.toNat :: (['\n'.toNat] ++
          (ascii "Connection: close" ++ '\r'.toNat :: (['\n'.toNat] ++ ([] ++ '\r'.toNat :: (['\n'.toNat] ++
            rest))))))))) := by
    simp [ascii]
  have separator : ascii "\r\n" = ['\r'.toNat,'\n'.toNat] := rfl
  rw [shape,separator,host,type_,length,close,end_]
  rfl

/-- The lines before the first empty one, of which none is dropped from the end. -/
theorem lines_before {lines : List (List Nat)} {last : List Nat} (nonempty : ∀ line ∈ lines ++ [last], line ≠ [])
    (rest : List (List Nat)) :
    ((lines ++ last :: [] :: rest).rdropWhile (· = [])).takeWhile (· ≠ []) = lines ++ [last] := by
  have all : ∀ line ∈ lines ++ [last], decide (line ≠ []) = true := fun line among =>
    decide_eq_true (nonempty line among)
  have stays : decide (last = []) = false := decide_eq_false (nonempty last (by simp))
  have kept := List.rdropWhile_prefix (· = []) ([] :: rest)
  rw [@Text.rdropWhile_append_of_last _ (· = []) lines last stays ([] :: rest)]
  generalize ([] :: rest).rdropWhile (· = []) = more at kept ⊢
  have shape : lines ++ last :: more = lines ++ [last] ++ more := by simp
  rw [shape,List.takeWhile_append_of_pos all]
  rcases List.prefix_cons_iff.mp kept with rfl | ⟨more,rfl,-⟩
  · rw [List.takeWhile_nil,List.append_nil]
  · rw [List.takeWhile_cons_of_neg (by simp),List.append_nil]

theorem postHeaders_value (n : Nat) (rest : List Nat) :
    headerValue (ascii "content-length") ((pieces (ascii "\r\n") 0 []
      (ascii "Host: localhost\r\nContent-Type: application/json\r\nContent-Length: " ++ digits n ++
        ascii "\r\nConnection: close\r\n\r\n" ++ rest)).rdropWhile (· = [])) = some (digits n) := by
  have solid : trim (' '.toNat :: digits n) = digits n :=
    (trim_blank _).trans (trim_solid fun u among => by
      have bounds := digits_bounds among
      omega)
  have length : headerOf (ascii "Content-Length: " ++ digits n) = some (ascii "content-length",digits n) := by
    have line := @headerOf_line (ascii "Content-Length") (by decide) (by decide) (' '.toNat :: digits n)
    rw [solid] at line
    exact line
  have host : headerOf (ascii "Host: localhost") = some (ascii "host",ascii "localhost") := by decide
  have type_ : headerOf (ascii "Content-Type: application/json") =
      some (ascii "content-type",ascii "application/json") := by decide
  have close : headerOf (ascii "Connection: close") = some (ascii "connection",ascii "close") := by decide
  have nonempty : ∀ line ∈ [ascii "Host: localhost",ascii "Content-Type: application/json",
      ascii "Content-Length: " ++ digits n] ++ [ascii "Connection: close"], line ≠ [] := by
    simp [ascii]
  have lines := lines_before nonempty (pieces (ascii "\r\n") 0 [] rest)
  have other : ascii "connection" ≠ ascii "content-length" := by decide
  rw [postHeaders_lines,headerValue,lines]
  simp [host,type_,length,close,other]

theorem behind_postHeaders (n : Nat) (rest : List Nat) :
    Occurrence.behind (ascii "\r\n\r\n") (request.requestLine ++
      (ascii "Host: localhost\r\nContent-Type: application/json\r\nContent-Length: " ++ digits n ++
        ascii "\r\nConnection: close\r\n\r\n" ++ rest)) = some rest := by
  have line : '\r'.toNat ∉ request.line := fun among => absurd (mem_line request among).1 (by decide)
  have number : '\r'.toNat ∉ digits n := fun among => absurd (digits_bounds among).1 (by decide)
  have clear (text : String)
      (none : ∀ part ∈ (ascii text).tails, part ≠ [] → ¬ part <+: ascii "\r\n\r\n" ∧ ¬ ascii "\r\n\r\n" <+: part)
      (rest : List Nat) : Occurrence.behind (ascii "\r\n\r\n") (ascii text ++ rest) =
        Occurrence.behind (ascii "\r\n\r\n") rest := Occurrence.behind_clear none rest
  have first := clear "\r\nHost: localhost\r\nContent-Type: application/json\r\nContent-Length: " (by decide +kernel)
  have second := clear "\r\nConnection: close" (by decide +kernel)
  have shape : request.requestLine ++
      (ascii "Host: localhost\r\nContent-Type: application/json\r\nContent-Length: " ++ digits n ++
        ascii "\r\nConnection: close\r\n\r\n" ++ rest) =
      request.line ++ (ascii "\r\nHost: localhost\r\nContent-Type: application/json\r\nContent-Length: " ++
        (digits n ++ (ascii "\r\nConnection: close" ++ (ascii "\r\n\r\n" ++ rest)))) := by
    simp [ascii,ClientRequest.requestLine]
  have separator : ascii "\r\n\r\n" = '\r'.toNat :: ascii "\n\r\n" := rfl
  rw [shape,separator,Occurrence.behind_append line,← separator,first,separator,
    Occurrence.behind_append number,← separator,second,Occurrence.behind_hit]

end Headers

section Bodies

theorem units_length (c : Char) : (Json.units c).length ≤ (Utf8.encodeChar c).length ∧
    ((Json.units c).length = (Utf8.encodeChar c).length → c.toNat < 0x80) := by
  unfold Json.units Utf8.encodeChar
  dsimp only
  split_ifs <;> simp only [List.length_cons,List.length_nil] <;> omega

theorem javaString_length_le (cs : List Char) : (javaString cs).length ≤ (Utf8.encode cs).length := by
  induction cs with
  | nil => exact Nat.le_refl 0
  | cons c cs ih =>
    have first := (units_length c).1
    rw [javaString_cons,Utf8.encode,List.flatMap_cons,List.length_append,List.length_append]
    exact Nat.add_le_add first ih

/-- As many units as bytes has a text of ASCII only. -/
theorem ascii_of_length {cs : List Char} (same : (javaString cs).length = (Utf8.encode cs).length) :
    ∀ c ∈ cs, c.toNat < 0x80 := by
  induction cs with
  | nil => simp
  | cons c cs ih =>
    have first := units_length c
    have others : (javaString cs).length ≤ (cs.flatMap Utf8.encodeChar).length := javaString_length_le cs
    rw [javaString_cons,Utf8.encode,List.flatMap_cons,List.length_append,List.length_append] at same
    intro d among
    rcases List.mem_cons.mp among with rfl | among
    · exact first.2 (by omega)
    · have rest : (javaString cs).length = (Utf8.encode cs).length := by
        rw [Utf8.encode]
        omega
      exact ih rest d among

theorem javaString_eq_encode {cs : List Char} (ascii : ∀ c ∈ cs, c.toNat < 0x80) :
    javaString cs = Utf8.encode cs := by
  rw [javaString_ascii ascii,Utf8.encode_ascii ascii]

theorem javaString_ne_nil {cs : List Char} (nonempty : cs ≠ []) : javaString cs ≠ [] := by
  cases cs with
  | nil => exact absurd rfl nonempty
  | cons c cs =>
    rw [javaString_cons]
    rcases units_cases c with only | ⟨u,more,shape,-⟩
    · simp [only]
    · simp [shape]

end Bodies

section Splits

variable {request : ClientRequest} {early later : List (List Nat)} {last front : List Nat}

theorem headersTogether_iff (before : early.flatten.length < request.requestLine.length)
    (complete : early.flatten ++ last = request.requestLine ++ front) :
    HeadersTogether request (early ++ last :: later) ↔ request.headers.length ≤ front.length := by
  have grows {first second : List (List Nat)} (start : first <+: second) :
      first.flatten.length ≤ second.flatten.length := by
    obtain ⟨more,rfl⟩ := start
    rw [List.flatten_append,List.length_append]
    omega
  have start : early ++ [last] <+: early ++ last :: later := ⟨later,by simp⟩
  have reached : (early ++ [last]).flatten.length = request.requestLine.length + front.length := by
    rw [List.flatten_append,List.flatten_singleton,complete,List.length_append]
  constructor
  · intro together
    have exactly : (early ++ last :: later).take (early ++ [last]).length = early ++ [last] :=
      (List.prefix_iff_eq_take.mp start).symm
    have here := together (early ++ [last]).length
    rw [exactly,reached] at here
    omega
  · intro long n
    by_cases few : n ≤ early.length
    · have within := grows (List.take_prefix n early)
      rw [List.take_append_of_le_length few]
      omega
    · have around := grows (List.prefix_take_iff.mpr ⟨start,show (early ++ [last]).length ≤ n by
        rw [List.length_append,List.length_singleton]
        omega⟩)
      omega

end Splits

section Routing

variable {character : JavaCharacter} {path : RequestPath} {body : JsonBody}

theorem requestLine_pos (request : ClientRequest) : 0 < request.requestLine.length := by
  rw [ClientRequest.requestLine,List.length_append]
  exact Nat.lt_add_left _ (by decide)

theorem get_routed (arrival : Arrival (ClientRequest.get path).bytes) :
    handleClient character [] arrival.reads = .routed (ascii "GET") path.bytes [] := by
  obtain ⟨early,last,later,front,-,-,-,rest,handled⟩ :=
    @handleClient_requestLine _ character [] _ _ (requestLine_pos _) arrival.whole
  have within : front <+: (ClientRequest.get path).headers := ⟨later.flatten,rest.trans (List.append_nil _)⟩
  have plain : Utf8.decode front = front := Utf8.decode_ascii fun u among => headers_ascii _ u (within.subset among)
  rw [handled,plain,handleHttpRequest_requestLine]
  exact withBody_none (get_headers within)

/-- Headers that come apart from their request line are not found complete. -/
theorem post_apart {front : List Nat} {later : List (List Nat)} {m p b : List Nat}
    (within : front <+: (ClientRequest.post path body).headers)
    (short : front.length < (ClientRequest.post path body).headers.length)
    (routed : handleHttpRequest character ((ClientRequest.post path body).requestLine ++ front) later =
      .routed m p b) : b = [] := by
  obtain ⟨missing,whole⟩ := within
  have complete := behind_postHeaders (ClientRequest.post path body) (ClientRequest.post path body).bodyBytes.length []
  rw [List.append_nil] at complete
  have same : ascii "Host: localhost\r\nContent-Type: application/json\r\nContent-Length: " ++
      digits (ClientRequest.post path body).bodyBytes.length ++ ascii "\r\nConnection: close\r\n\r\n" =
      front ++ missing := whole.symm
  rw [same,← List.append_assoc] at complete
  apply handleHttpRequest_headless ?_ routed
  cases found : Occurrence.behind (ascii "\r\n\r\n") ((ClientRequest.post path body).requestLine ++ front) with
  | none => rfl
  | some more =>
    have goes_on := Occurrence.behind_longer found missing
    have nothing : more ++ missing = [] := Option.some.inj (goes_on.symm.trans complete)
    rw [← whole,(List.append_eq_nil_iff.mp nothing).2,List.append_nil] at short
    exact absurd short (Nat.lt_irrefl _)

/-- Headers that come with their request line announce the number of bytes. -/
theorem post_together (before : List Nat) (later : List (List Nat)) :
    handleHttpRequest character ((ClientRequest.post path body).requestLine ++
        Utf8.decode ((ClientRequest.post path body).headers ++ before)) later =
      if (ClientRequest.post path body).bodyBytes.length < 2 ^ 31 then
        readBody (ascii "POST") path.bytes (ClientRequest.post path body).bodyBytes.length (Utf8.decode before) later
      else .failed := by
  rw [Utf8.decode_append (headers_ascii _),handleHttpRequest_requestLine]
  exact withBody_digits (postHeaders_value _ _) (behind_postHeaders _ _ _)

theorem post_routed_iff (arrival : Arrival (ClientRequest.post path body).bytes) :
    handleClient character [] arrival.reads = .routed (ascii "POST") path.bytes (javaString body.text) ↔
      (∀ c ∈ body.text, c.toNat < 0x80) ∧ (ClientRequest.post path body).bodyBytes.length < 2 ^ 31 ∧
        HeadersTogether (.post path body) arrival.reads := by
  obtain ⟨early,last,later,front,split,before,complete,rest,handled⟩ :=
    @handleClient_requestLine _ character [] _ _ (requestLine_pos _) arrival.whole
  rw [List.nil_append] at before complete
  rw [handled,split,headersTogether_iff before complete]
  by_cases long : (ClientRequest.post path body).headers.length ≤ front.length
  · obtain ⟨more,rfl⟩ : (ClientRequest.post path body).headers <+: front :=
      List.prefix_of_prefix_length_le ⟨_,rest.symm⟩ (List.prefix_append _ _) long
    rw [List.append_assoc,List.append_cancel_left_eq] at rest
    rw [post_together]
    constructor
    · intro routed
      split at routed
      · next small =>
        exact ⟨ascii_of_length (readBody_length routed),small,long⟩
      · cases routed
    · rintro ⟨plain,small,-⟩
      have bytes : javaString body.text = (ClientRequest.post path body).bodyBytes := javaString_eq_encode plain
      have single : ∀ u ∈ (ClientRequest.post path body).bodyBytes, u < 0x80 := fun u among => by
        rw [← bytes,javaString_ascii plain] at among
        obtain ⟨c,written,rfl⟩ := List.mem_map.mp among
        exact plain c written
      rw [← rest] at single
      rw [if_pos small,Utf8.decode_ascii fun u among => single u (List.mem_append_left _ among),
        readBody_ascii (fun u among => single u (List.mem_append_right _ among)) (by rw [rest]),rest,bytes]
  · have apart := Nat.lt_of_not_le long
    have within : front <+: (ClientRequest.post path body).headers :=
      List.prefix_of_prefix_length_le ⟨_,rest⟩ (List.prefix_append _ _) apart.le
    have plain : Utf8.decode front = front := Utf8.decode_ascii fun u among => headers_ascii _ u (within.subset among)
    rw [plain]
    refine ⟨fun routed => ?_,fun proper => absurd proper.2.2 long⟩
    exact absurd (post_apart within apart routed) (javaString_ne_nil body.written)

/-- Exactly the requests without a body, and those whose body is ASCII of less than 2 GiB and whose
headers come with their request line, are routed as sent. -/
theorem routed_iff (request : ClientRequest) (arrival : Arrival request.bytes) :
    handleClient character [] arrival.reads = .routed request.method request.path.bytes (javaString request.body) ↔
      (∃ path, request = .get path) ∨
        (∀ c ∈ request.body, c.toNat < 0x80) ∧ request.bodyBytes.length < 2 ^ 31 ∧
          HeadersTogether request arrival.reads := by
  cases request with
  | get path => exact ⟨fun _ => .inl ⟨path,rfl⟩,fun _ => get_routed arrival⟩
  | post path body =>
    have bodied : ¬ ∃ other, ClientRequest.post path body = .get other := by
      rintro ⟨other,same⟩
      cases same
    rw [or_iff_right bodied]
    exact post_routed_iff arrival

/-- A password with an accent leaves the agent waiting for a byte that was never sent; and a body
whose headers come in the second read is lost. -/
theorem accent_waits :
    let character : JavaCharacter := ⟨fun _ => none,fun _ => false⟩
    let path : RequestPath := .inWindow 1 "type-by-label".toList (by decide)
    let accented := ClientRequest.post path (.ofMembers (Request.typeTextByLabel "Password" "é").body)
    let plain := ClientRequest.post path (.ofMembers (Request.typeTextByLabel "Password" "e").body)
    (∃ arrival : Arrival accented.bytes, handleClient character [] arrival.reads = .waits) ∧
      ∃ arrival : Arrival plain.bytes,
        handleClient character [] arrival.reads = .routed plain.method path.bytes [] := by
  intro character path accented plain
  refine ⟨⟨⟨[accented.bytes],?_,?_⟩,?_⟩,⟨⟨[plain.requestLine,plain.headers ++ plain.bodyBytes],?_,?_⟩,?_⟩⟩
  · decide +kernel
  · decide +kernel
  · decide +kernel
  · decide +kernel
  · decide +kernel
  · decide +kernel

end Routing

end Ibctl.Agent
