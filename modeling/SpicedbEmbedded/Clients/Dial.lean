/-
**Where the bindings dial.**

`spicedb_start` answers with the address its streaming proxy listens on and whether it is a Unix socket
or a TCP port; each binding makes an endpoint of the two. Rust, Java and C# take the path of a socket as
it is, Node and Python make a gRPC target of it, `unix://` and the address. A host and a port are read
by Java and C# themselves, and by the gRPC and HTTP libraries of the others.

* `Naming` — how those libraries read a target, as they document it.
* **`dials_iff`** — the listeners and bindings for which the endpoint is the one the library listens on:
  for Node and Python the temp directory must be absolute and the naming read the address literally.
* `coreNaming` — a naming that reads paths the way URIs spell them; **`target_core_iff`** says which
  characters an address may then have.
-/

import Mathlib.Data.List.DropRight
import SpicedbEmbedded.Ffi.Bindings
import SpicedbEmbedded.Shared.Decode
import SpicedbEmbedded.Shared.Sockets
import SpicedbEmbedded.Text.HostPort
import SpicedbEmbedded.Text.Uri

namespace SpicedbEmbedded.Clients

open Ffi (Binding)
open Text

/-! ### Listeners -/

/-- What is listened on or dialed. An abstract socket has a name instead of a file. -/
inductive Endpoint
  | socket (path : List Char)
  | abstract (name : List Char)
  | tcp (host : List Char) (port : Nat)
  deriving DecidableEq

/-- The listener of `startStreamingProxy`: the Unix socket of a handle, or a TCP port. The temp directory
is text: what is no UTF-8 in a path does not cross the boundary as it is. -/
inductive Listener
  | unix (tempDir : String) (pid : Nat) (id : UInt64)
  | tcp (host : List Char) (port : Nat)

namespace Listener

/-- `streaming_address`: `streamingProxyAddr`, or what `net.Addr` prints. -/
def address : Listener → String
  | .unix tempDir pid id => Shared.streamingProxyAddr tempDir pid id
  | .tcp host port => String.ofList (joinHostPort host port)

/-- `streaming_transport`. -/
def transport : Listener → String
  | .unix _ _ _ => "unix"
  | .tcp _ _ => "tcp"

/-- What `net.Listen` binds. Where there are abstract sockets, an `@` in front names one. -/
def bound (abstractSockets : Bool) : Listener → Endpoint
  | .unix tempDir pid id =>
    match (Shared.streamingProxyAddr tempDir pid id).toList with
    | '@' :: name => if abstractSockets then .abstract name else .socket ('@' :: name)
    | path => .socket path
  | .tcp host port => .tcp host port

/-- A host and a port that can be listened on. -/
def Proper : Listener → Prop
  | .unix _ _ _ => True
  | .tcp host port => Host host ∧ port ≤ 65535

end Listener

/-! ### The libraries of the bindings -/

/-- How a gRPC library names endpoints, and how an HTTP library does: the schemes with a resolver of
their own, what a target resolves to, and how the characters of a path are read. -/
structure Naming where
  registered : List Char → Bool
  resolve : List Char → Option Endpoint
  read : List Char → Option (List Char)
  http : List Char → Option Endpoint
  /-- `unix:///abs/path` denotes an absolute path. -/
  absolute : ∀ c path, resolve ("unix://".toList ++ '/' :: c :: path) =
    (read ('/' :: c :: path)).map .socket
  /-- `unix://a/b` has authority `a`: the authority is no part of the path. -/
  authority : ∀ name c path endpoint, name ≠ [] → '/' ∉ name →
    resolve ("unix://".toList ++ (name ++ '/' :: c :: path)) = some endpoint →
    ∃ part, (part = c :: path ∨ part = '/' :: c :: path) ∧ (read part).map .socket = some endpoint
  /-- `unix://a` has an authority and no path, or it has none. -/
  bare : ∀ name endpoint, name ≠ [] → '/' ∉ name →
    resolve ("unix://".toList ++ name) = some endpoint →
    ∃ part, (part = [] ∨ part = '/' :: '/' :: name) ∧ (read part).map .socket = some endpoint
  /-- Reading a path takes escapes out and puts nothing in. -/
  shorter : ∀ path text, read path = some text → text.length ≤ path.length
  rooted : ∀ path text, read ('/' :: path) = some text → text.head? = some '/'
  /-- Without a registered scheme a target is a host and a port. -/
  hostPort : ∀ target host port, splitHostPort target = some (host, port) → Host host →
    (∀ scheme, schemeOf target = some scheme → registered scheme = false) →
    resolve target = some (.tcp host port)
  /-- A registered scheme is one, and its resolver sees only what follows it. -/
  scheme : ∀ scheme, registered scheme = true → IsScheme scheme
  schemed : ∀ scheme rest host port, registered scheme = true →
    resolve (scheme ++ ':' :: rest) = some (.tcp host port) → host <:+: rest
  /-- The authority of an HTTP URI is a host and a port. -/
  origin : ∀ authority host port, splitHostPort authority = some (host, port) → Host host →
    http ("http://".toList ++ authority) = some (.tcp host port)

/-! ### The bindings -/

/-- Node's `streamingTarget`, with the `getTarget` of the transport. -/
def nodeTarget (address transport : String) : List Char :=
  if transport = "unix" then "unix://".toList ++ address.toList else address.toList

/-- Python's `_streaming_target`. -/
def pythonTarget (address transport : String) : List Char :=
  if transport = "unix" then "unix://".toList ++ address.toList else address.toList

/-- An integer with an optional sign, of the 32 bits that Java and C# give an `int`. -/
def parseInt32 (text : List Char) : Option Int :=
  let value := match text with
    | '+' :: rest => (Shared.parseDigits rest).map Int.ofNat
    | text => Shared.parseInteger text
  value.filter fun n => -2147483648 ≤ n ∧ n ≤ 2147483647

/-- White space around a number, to C#. -/
def isWhite (c : Char) : Bool := c = ' ' || 9 ≤ c.toNat && c.toNat ≤ 13

/-- `int.TryParse`. -/
def tryParse (text : List Char) : Option Int :=
  parseInt32 ((text.dropWhile isWhite).rdropWhile isWhite)

/-- `InetSocketAddress` of Java and `DnsEndPoint` of C#. -/
def socketAddress (host : List Char) (port : Int) : Except String Endpoint :=
  if 0 ≤ port ∧ port ≤ 65535 then .ok (.tcp host port.toNat)
  else .error ("port out of range:" ++ toString port)

/-- `equalsIgnoreCase` of Java and `StringComparison.OrdinalIgnoreCase` of C#, for ASCII texts. -/
def equalsIgnoreCase (a b : String) : Bool := a.toList.map Char.toLower = b.toList.map Char.toLower

/-- `TcpChannel.build` of Java. -/
def javaTcpChannel (address : String) : Except String Endpoint :=
  let text := address.toList
  if text.head? = some '[' then
    match indexOf ']' text with
    | none => .error ("Invalid TCP address (missing ']'): " ++ address)
    | some closeBracket =>
      let host := (text.take closeBracket).drop 1
      if host = [] then .error ("Invalid TCP address (empty host): " ++ address)
      else if text[closeBracket + 1]? ≠ some ':' then
        .error ("Invalid TCP address (missing port): " ++ address)
      else
        match parseInt32 (text.drop (closeBracket + 2)) with
        | none => .error ("Invalid TCP address (bad port): " ++ address)
        | some port => socketAddress host port
  else
    match lastIndexOf ':' text with
    | none | some 0 => .error ("Invalid TCP address: " ++ address)
    | some colon =>
      match parseInt32 (text.drop (colon + 1)) with
      | none => .error ("Invalid TCP address (bad port): " ++ address)
      | some port => socketAddress (text.take colon) port

/-- `TcpChannel.CreateHandler` of C#. -/
def csharpTcpChannel (address : String) : Except String Endpoint :=
  let text := address.toList
  if text.head? = some '[' then
    match indexOf ']' text with
    | none => .error ("Invalid TCP address: " ++ address)
    | some closeBracket =>
      if text[closeBracket + 1]? ≠ some ':' then .error ("Invalid TCP address: " ++ address)
      else
        let host := (text.take closeBracket).drop 1
        if host = [] then .error ("Invalid TCP address (empty host): " ++ address)
        else
          match tryParse (text.drop (closeBracket + 2)) with
          | none => .error ("Invalid TCP address (bad port): " ++ address)
          | some port => socketAddress host port
  else
    match lastIndexOf ':' text with
    | none | some 0 => .error ("Invalid TCP address: " ++ address)
    | some colonIdx =>
      match tryParse (text.drop (colonIdx + 1)) with
      | none => .error ("Invalid TCP address: " ++ address)
      | some port => socketAddress (text.take colonIdx) port

/-- `UnixSocketChannel.build` of Java, on Linux and macOS. -/
def javaUnixSocketChannel (files : List Char → Bool) (address : String) : Except String Endpoint :=
  if files address.toList then .ok (.socket address.toList)
  else .error ("Socket path does not exist: " ++ address)

/-- `UnixSocketChannel.CreateHandler` of C#. -/
def csharpUnixSocketChannel (address : String) : Except String Endpoint :=
  .ok (.socket address.toList)

/-- The endpoint a binding makes of an address and a transport, where these files are. The Rust crate
hands out the pair; its tests' `connect_streaming` is the client. -/
def dial (naming : Naming) (files : List Char → Bool) (address transport : String) :
    Binding → Option Endpoint
  | .rust =>
    if transport = "unix" then some (.socket address.toList)
    else naming.http ("http://".toList ++ address.toList)
  | .python => naming.resolve (pythonTarget address transport)
  | .java =>
    if equalsIgnoreCase "unix" transport then (javaUnixSocketChannel files address).toOption
    else (javaTcpChannel address).toOption
  | .csharp =>
    if equalsIgnoreCase "unix" transport then (csharpUnixSocketChannel address).toOption
    else (csharpTcpChannel address).toOption
  | .node => naming.resolve (nodeTarget address transport)

/-- The binding dials where the library listens. -/
def Dials (naming : Naming) (files : List Char → Bool) (abstractSockets : Bool) (b : Binding)
    (listener : Listener) : Prop :=
  dial naming files listener.address listener.transport b = some (listener.bound abstractSockets)

/-- A listening socket has its file. -/
def Present (files : List Char → Bool) (abstractSockets : Bool) (listener : Listener) : Prop :=
  ∀ path, listener.bound abstractSockets = .socket path → files path = true

/-- The condition. To the library a path that starts with `@` is a name, where there are abstract
sockets. To Node and Python a path must be absolute and have no character that means something else in
a target, and a host must not be the name of a scheme. -/
def Reached (naming : Naming) (abstractSockets : Bool) : Listener → Binding → Prop
  | .unix tempDir pid id, b =>
    let path := (Shared.streamingProxyAddr tempDir pid id).toList
    match b with
    | .node | .python => tempDir.toList.head? = some '/' ∧ naming.read path = some path
    | .rust | .java | .csharp => abstractSockets = true → path.head? ≠ some '@'
  | .tcp host _, b =>
    match b with
    | .node | .python => ':' ∉ host → naming.registered host = false
    | .rust | .java | .csharp => True

/-! ### Sockets -/

section Unix

variable (naming : Naming) {abstractSockets : Bool}

/-- What a socket is bound to. -/
theorem bound_unix (abstractSockets : Bool) (tempDir : String) (pid : Nat) (id : UInt64) :
    (Listener.unix tempDir pid id).bound abstractSockets =
        .socket (Shared.streamingProxyAddr tempDir pid id).toList ∧
        (abstractSockets = true → (Shared.streamingProxyAddr tempDir pid id).toList.head? ≠ some '@') ∨
      (∃ name, (Listener.unix tempDir pid id).bound abstractSockets = .abstract name) ∧
        abstractSockets = true ∧ (Shared.streamingProxyAddr tempDir pid id).toList.head? = some '@' := by
  rw [Listener.bound]
  split
  · next name path =>
    rw [path]
    cases abstractSockets with
    | false => exact Or.inl ⟨rfl, fun on => by cases on⟩
    | true => exact Or.inr ⟨⟨name, rfl⟩, rfl, rfl⟩
  · next path other =>
    refine Or.inl ⟨rfl, fun _ first => ?_⟩
    obtain ⟨name, same⟩ := List.head?_eq_some_iff.mp first
    exact other name same

/-- The path of a socket: the name of the file behind what the directory fixes. -/
theorem address_eq (tempDir : String) (pid : Nat) (id : UInt64) :
    (Shared.streamingProxyAddr tempDir pid id).toList =
      front tempDir.toList ++ (Shared.socketName pid id.toNat).toList := by
  rw [Shared.streamingProxyAddr, String.toList_ofList,
    join_plain _ (Shared.socketName_plain pid id.toNat)]

theorem address_rooted_iff (tempDir : String) (pid : Nat) (id : UInt64) :
    (Shared.streamingProxyAddr tempDir pid id).toList.head? = some '/' ↔
      tempDir.toList.head? = some '/' := by
  rw [Shared.streamingProxyAddr, String.toList_ofList]
  exact join_rooted_iff _ (Shared.socketName_plain pid id.toNat)

/-- It does not end with a slash. -/
theorem address_last (tempDir : String) (pid : Nat) (id : UInt64) :
    (Shared.streamingProxyAddr tempDir pid id).toList ≠ [] ∧
      (Shared.streamingProxyAddr tempDir pid id).toList.getLast? ≠ some '/' := by
  have plain := Shared.socketName_plain pid id.toNat
  rw [address_eq]
  refine ⟨fun empty => plain.nonempty (List.append_eq_nil_iff.mp empty).2, fun last => ?_⟩
  rw [List.getLast?_append_of_ne_nil _ plain.nonempty] at last
  exact plain.flat (List.mem_of_getLast? last)

/-- Of a path that is not absolute a part is read: an empty, a shorter or an absolute one. -/
theorem relative_part {path : List Char} {endpoint : Endpoint} (filled : path ≠ [])
    (relative : path.head? ≠ some '/') (last : path.getLast? ≠ some '/')
    (found : naming.resolve ("unix://".toList ++ path) = some endpoint) :
    ∃ part, (part = [] ∨ part.length < path.length ∨ part.head? = some '/') ∧
      (naming.read part).map .socket = some endpoint := by
  by_cases slash : '/' ∈ path
  · obtain ⟨name, rest, rfl, clear⟩ := List.eq_append_cons_of_mem slash
    have owned : name ≠ [] := by
      rintro rfl
      exact relative rfl
    cases rest with
    | nil => exact absurd (List.getLast?_concat ..) last
    | cons c rest =>
      obtain ⟨part, kind, named⟩ := naming.authority name c rest _ owned clear found
      refine ⟨part, Or.inr (Or.inl ?_), named⟩
      have size := List.length_pos_of_ne_nil owned
      rcases kind with rfl | rfl <;> simp only [List.length_append, List.length_cons] <;> omega
  · obtain ⟨part, kind, named⟩ := naming.bare path _ filled slash found
    rcases kind with rfl | rfl
    · exact ⟨[], Or.inl rfl, named⟩
    · exact ⟨_, Or.inr (Or.inr rfl), named⟩

/-- A target whose path is not absolute names something else. -/
theorem resolve_relative {path : List Char} (filled : path ≠ []) (relative : path.head? ≠ some '/')
    (last : path.getLast? ≠ some '/') :
    naming.resolve ("unix://".toList ++ path) ≠ some (.socket path) ∧
      ∀ name, naming.resolve ("unix://".toList ++ path) ≠ some (.abstract name) := by
  constructor
  · intro found
    obtain ⟨part, kind, same⟩ := relative_part naming filled relative last found
    obtain ⟨text, read, named⟩ := Option.map_eq_some_iff.mp same
    obtain rfl : text = path := Endpoint.socket.inj named
    -- Reading makes nothing longer and keeps a leading slash, so the whole path is not read of a part.
    rcases kind with rfl | short | rooted
    · exact filled (List.eq_nil_of_length_eq_zero (Nat.le_zero.mp (naming.shorter _ _ read)))
    · exact absurd (naming.shorter _ _ read) (by omega)
    · obtain ⟨rest, rfl⟩ := List.head?_eq_some_iff.mp rooted
      exact relative (naming.rooted _ _ read)
  · intro name found
    obtain ⟨part, _, same⟩ := relative_part naming filled relative last found
    obtain ⟨text, _, named⟩ := Option.map_eq_some_iff.mp same
    cases named

/-- An absolute path is what is read of it. -/
theorem resolve_absolute {path : List Char} (rooted : path.head? = some '/')
    (last : path.getLast? ≠ some '/') :
    naming.resolve ("unix://".toList ++ path) = (naming.read path).map .socket := by
  obtain ⟨rest, rfl⟩ := List.head?_eq_some_iff.mp rooted
  cases rest with
  | nil => exact absurd rfl last
  | cons c rest => exact naming.absolute c rest

/-- A `unix://` target is the socket exactly when the path is absolute and read literally. -/
theorem target_iff (tempDir : String) (pid : Nat) (id : UInt64) :
    naming.resolve ("unix://".toList ++ (Shared.streamingProxyAddr tempDir pid id).toList) =
        some ((Listener.unix tempDir pid id).bound abstractSockets) ↔
      tempDir.toList.head? = some '/' ∧
        naming.read (Shared.streamingProxyAddr tempDir pid id).toList =
          some (Shared.streamingProxyAddr tempDir pid id).toList := by
  obtain ⟨filled, last⟩ := address_last tempDir pid id
  rw [← address_rooted_iff tempDir pid id]
  by_cases rooted : (Shared.streamingProxyAddr tempDir pid id).toList.head? = some '/'
  · rw [resolve_absolute naming rooted last, and_iff_right rooted]
    rcases bound_unix abstractSockets tempDir pid id with ⟨bound, -⟩ | ⟨-, -, named⟩
    · rw [bound, Option.map_eq_some_iff]
      constructor
      · rintro ⟨text, read, same⟩
        rwa [Endpoint.socket.inj same] at read
      · exact fun read => ⟨_, read, rfl⟩
    · rw [rooted] at named
      exact absurd named (by decide)
  · obtain ⟨notPath, notName⟩ := resolve_relative naming filled rooted last
    refine iff_of_false ?_ (fun both => rooted both.1)
    rcases bound_unix abstractSockets tempDir pid id with ⟨bound, -⟩ | ⟨⟨name, bound⟩, -⟩
    · rw [bound]
      exact notPath
    · rw [bound]
      exact notName name

/-- The path as it is is the socket unless it is a name. -/
theorem path_iff (tempDir : String) (pid : Nat) (id : UInt64) :
    some (Endpoint.socket (Shared.streamingProxyAddr tempDir pid id).toList) =
        some ((Listener.unix tempDir pid id).bound abstractSockets) ↔
      (abstractSockets = true →
        (Shared.streamingProxyAddr tempDir pid id).toList.head? ≠ some '@') := by
  rcases bound_unix abstractSockets tempDir pid id with ⟨bound, plain⟩ | ⟨⟨name, bound⟩, on, named⟩
  · rw [bound]
    exact iff_of_true rfl plain
  · rw [bound]
    refine iff_of_false ?_ (fun plain => plain on named)
    intro same
    cases same

end Unix

/-! ### Hosts and ports -/

section Tcp

variable {host : List Char} {port : Nat}

theorem parseInt32_toDigits (small : port ≤ 65535) :
    parseInt32 (Nat.toDigits 10 port) = some (port : Int) := by
  have value : Shared.parseInteger (Nat.toDigits 10 port) = some (port : Int) :=
    Shared.parseInteger_decimal port
  rw [parseInt32, value]
  · exact if_pos (decide_eq_true (by omega))
  · intro rest same
    have digit : '+'.isDigit = true := isDigit_of_mem_toDigits (same ▸ List.mem_cons_self)
    cases digit

/-- Digits have no white space around them. -/
theorem tryParse_toDigits (small : port ≤ 65535) :
    tryParse (Nat.toDigits 10 port) = some (port : Int) := by
  have solid : ∀ c ∈ Nat.toDigits 10 port, ¬isWhite c = true := by
    intro c inside white
    have digit := isDigit_of_mem_toDigits inside
    have bounds : 48 ≤ c.toNat := by
      rw [Char.isDigit, Bool.and_eq_true, decide_eq_true_eq] at digit
      exact digit.1
    rw [isWhite, Bool.or_eq_true, decide_eq_true_eq, Bool.and_eq_true, decide_eq_true_eq,
      decide_eq_true_eq] at white
    rcases white with rfl | ⟨_, control⟩
    · exact absurd bounds (by decide)
    · omega
  have front : (Nat.toDigits 10 port).dropWhile isWhite = Nat.toDigits 10 port :=
    List.dropWhile_eq_self_iff.mpr fun some => solid _ (List.getElem_mem some)
  have back : (Nat.toDigits 10 port).rdropWhile isWhite = Nat.toDigits 10 port :=
    List.rdropWhile_eq_self_iff.mpr fun some => solid _ (List.getLast_mem some)
  rw [tryParse, front, back, parseInt32_toDigits small]

theorem socketAddress_port (host : List Char) (small : port ≤ 65535) :
    socketAddress host (port : Int) = .ok (.tcp host port) := by
  rw [socketAddress, if_pos ⟨Int.natCast_nonneg port, by omega⟩, Int.toNat_natCast]

/-- What the parsers find in a host in brackets and a port. -/
theorem bracketed_parts (plain : Host host) (digits : List Char) :
    indexOf ']' ('[' :: host ++ ']' :: ':' :: digits) = some (host.length + 1) ∧
      (('[' :: host ++ ']' :: ':' :: digits).take (host.length + 1)).drop 1 = host ∧
      ('[' :: host ++ ']' :: ':' :: digits)[host.length + 1 + 1]? = some ':' ∧
      ('[' :: host ++ ']' :: ':' :: digits).drop (host.length + 1 + 2) = digits := by
  have clear : ']' ∉ '[' :: host := by
    rintro (- | ⟨_, inside⟩)
    exact plain.not_mem (by decide) inside
  refine ⟨indexOf_append clear _, ?_, ?_, ?_⟩
  · rw [List.take_left' (by rfl)]
    rfl
  · simp
  · simp

/-- What they find in a host without colons and a port. -/
theorem plain_parts (plain : Host host) {digits : List Char} (clear : ':' ∉ digits) :
    (host ++ ':' :: digits).head? ≠ some '[' ∧
      ∃ n, lastIndexOf ':' (host ++ ':' :: digits) = some (n + 1) ∧
        (host ++ ':' :: digits).take (n + 1) = host ∧
        (host ++ ':' :: digits).drop (n + 1 + 1) = digits := by
  cases host with
  | nil => exact absurd rfl plain.1
  | cons c rest =>
    refine ⟨fun first => plain.head (c := '[') (by decide) first, rest.length,
      lastIndexOf_append _ clear, ?_, ?_⟩
    · exact List.take_left' rfl
    · simp

theorem colon_notMem_toDigits (port : Nat) : ':' ∉ Nat.toDigits 10 port :=
  not_mem_toDigits (by decide) port

/-- Java reads a host and a port as printed. -/
theorem javaTcpChannel_joinHostPort (plain : Host host) (small : port ≤ 65535) :
    javaTcpChannel (String.ofList (joinHostPort host port)) = .ok (.tcp host port) := by
  rw [javaTcpChannel, String.toList_ofList]
  dsimp only
  by_cases colons : ':' ∈ host
  · obtain ⟨found, inside, next, rest⟩ := bracketed_parts plain (Nat.toDigits 10 port)
    rw [joinHostPort, if_pos colons, if_pos (by rfl), found]
    dsimp only
    rw [inside, next, rest, if_neg plain.1, if_neg (fun other => other rfl),
      parseInt32_toDigits small]
    exact socketAddress_port host small
  · obtain ⟨unbracketed, n, found, before, after⟩ := plain_parts plain (colon_notMem_toDigits port)
    rw [joinHostPort, if_neg colons, if_neg unbracketed, found]
    simp only [before, after, parseInt32_toDigits small]
    exact socketAddress_port host small

/-- C# reads a host and a port as printed. -/
theorem csharpTcpChannel_joinHostPort (plain : Host host) (small : port ≤ 65535) :
    csharpTcpChannel (String.ofList (joinHostPort host port)) = .ok (.tcp host port) := by
  rw [csharpTcpChannel, String.toList_ofList]
  dsimp only
  by_cases colons : ':' ∈ host
  · obtain ⟨found, inside, next, rest⟩ := bracketed_parts plain (Nat.toDigits 10 port)
    rw [joinHostPort, if_pos colons, if_pos (by rfl), found]
    dsimp only
    rw [inside, next, rest, if_neg (fun other => other rfl), if_neg plain.1,
      tryParse_toDigits small]
    exact socketAddress_port host small
  · obtain ⟨unbracketed, n, found, before, after⟩ := plain_parts plain (colon_notMem_toDigits port)
    rw [joinHostPort, if_neg colons, if_neg unbracketed, found]
    simp only [before, after, tryParse_toDigits small]
    exact socketAddress_port host small

/-- The scheme a host and a port seem to have is the host. -/
theorem schemeOf_joinHostPort {scheme : List Char}
    (found : schemeOf (joinHostPort host port) = some scheme) : ':' ∉ host ∧ scheme = host := by
  rw [schemeOf] at found
  split at found
  · next both =>
    have known := Option.some.inj found
    by_cases colons : ':' ∈ host
    · rw [joinHostPort, if_pos colons] at both
      have letter := (Bool.and_eq_true_iff.mp both.2).1
      cases letter
    · rw [joinHostPort, if_neg colons, (takeWhile_dropWhile_append colons _).1] at known
      exact ⟨colons, known.symm⟩
  · cases found

theorem not_isAlpha_of_isDigit {c : Char} (digit : c.isDigit = true) : ¬c.isAlpha = true := by
  have alpha : c.isAlpha = (decide (c.val ≥ 'A'.val ∧ c.val ≤ 'Z'.val) ||
      (decide (c.val ≥ 'a'.val) && decide (c.val ≤ 'z'.val))) := rfl
  have bound : c.val.toNat ≤ '9'.val.toNat := (Char.isDigit_iff_toNat.mp digit).2
  rw [alpha]
  simp only [Bool.or_eq_true, Bool.and_eq_true, decide_eq_true_eq, UInt32.le_iff_toNat_le, ge_iff_le]
  have nine : '9'.val.toNat = 57 := rfl
  have upper : 'A'.val.toNat = 65 := rfl
  have lower : 'a'.val.toNat = 97 := rfl
  omega

/-- A gRPC library dials a host and a port unless the host is the name of a scheme. -/
theorem resolve_joinHostPort_iff (naming : Naming) (plain : Host host) (small : port ≤ 65535) :
    naming.resolve (joinHostPort host port) = some (.tcp host port) ↔
      (':' ∉ host → naming.registered host = false) := by
  have split := splitHostPort_joinHostPort plain small
  constructor
  · intro resolved colons
    by_contra known
    have registered : naming.registered host = true := by simpa using known
    rw [joinHostPort, if_neg colons] at resolved
    have inside := naming.schemed host _ host port registered resolved
    cases host with
    | nil => exact plain.1 rfl
    | cons c rest =>
      have digit : c.isDigit = true := isDigit_of_mem_toDigits (inside.subset List.mem_cons_self)
      have named := naming.scheme (c :: rest) registered
      have letter : c.isAlpha = true := (Bool.and_eq_true_iff.mp named).1
      exact not_isAlpha_of_isDigit digit letter
  · intro unknown
    refine naming.hostPort _ host port split plain ?_
    intro scheme found
    obtain ⟨colons, rfl⟩ := schemeOf_joinHostPort found
    exact unknown colons

end Tcp

/-! ### All bindings -/

theorem unix_ignoreCase : equalsIgnoreCase "unix" "unix" = true := by decide

theorem tcp_ignoreCase : ¬equalsIgnoreCase "unix" "tcp" = true := by decide

/-- What each binding makes of a socket. -/
theorem dial_unix (naming : Naming) (files : List Char → Bool) (address : String) (b : Binding) :
    dial naming files address "unix" b =
      match b with
      | .rust | .csharp => some (.socket address.toList)
      | .java => if files address.toList then some (.socket address.toList) else none
      | .python | .node => naming.resolve ("unix://".toList ++ address.toList) := by
  cases b with
  | rust | python | node => rfl
  | csharp =>
    rw [dial, if_pos unix_ignoreCase]
    rfl
  | java =>
    rw [dial, if_pos unix_ignoreCase, javaUnixSocketChannel]
    dsimp only
    split <;> rfl

/-- What it makes of a port. -/
theorem dial_tcp (naming : Naming) (files : List Char → Bool) (address : String) (b : Binding) :
    dial naming files address "tcp" b =
      match b with
      | .rust => naming.http ("http://".toList ++ address.toList)
      | .csharp => (csharpTcpChannel address).toOption
      | .java => (javaTcpChannel address).toOption
      | .python | .node => naming.resolve address.toList := by
  cases b with
  | rust | python | node => rfl
  | csharp | java => rw [dial, if_neg tcp_ignoreCase]

/-- **Each binding dials where the library listens exactly under its condition.** -/
theorem dials_iff (naming : Naming) {files : List Char → Bool} {abstractSockets : Bool}
    {listener : Listener} (proper : listener.Proper)
    (present : Present files abstractSockets listener) (b : Binding) :
    Dials naming files abstractSockets b listener ↔ Reached naming abstractSockets listener b := by
  cases listener with
  | unix tempDir pid id =>
    rw [Dials, Listener.address, Listener.transport, dial_unix]
    cases b with
    | node | python => exact target_iff naming tempDir pid id
    | rust | csharp => exact path_iff tempDir pid id
    | java =>
      show (if _ then _ else none) = _ ↔ _
      split
      · exact path_iff tempDir pid id
      · next absent =>
        rcases bound_unix abstractSockets tempDir pid id with ⟨bound, -⟩ | ⟨-, on, named⟩
        · exact absurd (present _ bound) absent
        · exact iff_of_false (by simp) fun plain => plain on named
  | tcp host port =>
    obtain ⟨plain, small⟩ := proper
    have text : (String.ofList (joinHostPort host port)).toList = joinHostPort host port :=
      String.toList_ofList
    rw [Dials, Listener.address, Listener.transport, dial_tcp]
    cases b with
    | node | python =>
      rw [text]
      exact resolve_joinHostPort_iff naming plain small
    | rust =>
      rw [text]
      exact iff_of_true (naming.origin _ host port (splitHostPort_joinHostPort plain small) plain)
        trivial
    | java =>
      show (javaTcpChannel (String.ofList _)).toOption = _ ↔ _
      rw [javaTcpChannel_joinHostPort plain small]
      exact iff_of_true rfl trivial
    | csharp =>
      show (csharpTcpChannel (String.ofList _)).toOption = _ ↔ _
      rw [csharpTcpChannel_joinHostPort plain small]
      exact iff_of_true rfl trivial

/-! ### A naming by the standard -/

/-- The Unix resolver on what follows `unix:`; it takes no authority. -/
def coreUnix (rest : List Char) : Option Endpoint :=
  match rest with
  | '/' :: '/' :: rest =>
    if (splitAuthority rest).1 = [] then (readPath (splitAuthority rest).2).map .socket else none
  | path => (readPath path).map .socket

/-- A host and a port. -/
def coreHostPort (text : List Char) : Option Endpoint :=
  (splitHostPort text).map fun pair => .tcp pair.1 pair.2

/-- The schemes with a resolver. -/
def coreSchemes : List (List Char) := ["unix".toList, "dns".toList, "ipv4".toList, "ipv6".toList]

/-- The resolvers; only the Unix one is needed. -/
def coreResolve (target : List Char) : Option Endpoint :=
  match schemeOf target with
  | none => coreHostPort target
  | some scheme =>
    if scheme = "unix".toList then coreUnix (target.drop 5)
    else if coreSchemes.contains scheme then none
    else coreHostPort target

theorem coreResolve_unix (rest : List Char) :
    coreResolve ("unix://".toList ++ rest) = coreUnix ('/' :: '/' :: rest) := by
  have named : IsScheme "unix".toList := by decide
  have scheme : schemeOf ("unix://".toList ++ rest) = some "unix".toList :=
    schemeOf_append named ('/' :: '/' :: rest)
  rw [coreResolve, scheme]
  rfl

/-- An authority that is not empty is refused. -/
theorem coreUnix_owned {name : List Char} (owned : name ≠ []) (clear : '/' ∉ name)
    (rest : List Char) : coreUnix ('/' :: '/' :: (name ++ rest)) = none := by
  cases name with
  | nil => exact absurd rfl owned
  | cons c others =>
    have differs : decide (c ≠ '/') = true :=
      decide_eq_true fun same => clear (same ▸ List.mem_cons_self)
    have authority : (splitAuthority (c :: others ++ rest)).1 ≠ [] := by
      show (c :: (others ++ rest)).takeWhile (fun c => decide (c ≠ '/')) ≠ []
      rw [List.takeWhile_cons, if_pos differs]
      exact List.cons_ne_nil _ _
    exact if_neg authority

/-- The Unix resolver gives sockets only. -/
theorem coreUnix_ne_tcp (rest host : List Char) (port : Nat) :
    coreUnix rest ≠ some (.tcp host port) := by
  have noTcp : ∀ path, (readPath path).map Endpoint.socket ≠ some (.tcp host port) := by
    intro path same
    obtain ⟨text, _, named⟩ := Option.map_eq_some_iff.mp same
    cases named
  unfold coreUnix
  split
  · split
    · exact noTcp _
    · exact fun same => by cases same
  · exact noTcp _

/-- A naming that reads a path the way URIs spell it and takes no authority for a socket. -/
def coreNaming : Naming where
  registered scheme := coreSchemes.contains scheme
  resolve := coreResolve
  read := readPath
  http text := coreHostPort (text.drop 7)
  absolute c path := coreResolve_unix _
  authority name c path endpoint owned clear found := by
    rw [coreResolve_unix, coreUnix_owned owned clear] at found
    cases found
  bare name endpoint owned clear found := by
    have refused := coreUnix_owned owned clear []
    rw [List.append_nil] at refused
    rw [coreResolve_unix, refused] at found
    cases found
  shorter path text same := (readPath_length same).1
  rooted path text same := readPath_rooted same
  hostPort target host port split plain unknown := by
    have dialed : coreHostPort target = some (.tcp host port) := by rw [coreHostPort, split]; rfl
    rw [coreResolve]
    cases found : schemeOf target with
    | none => exact dialed
    | some scheme =>
      have other := unknown scheme found
      have notUnix : scheme ≠ "unix".toList := by
        rintro rfl
        cases other
      dsimp only
      rw [if_neg notUnix, if_neg (by rw [other]; exact Bool.false_ne_true)]
      exact dialed
  scheme scheme known := by
    have all : coreSchemes.all (fun scheme => decide (IsScheme scheme)) = true := by decide
    exact of_decide_eq_true (List.all_eq_true.mp all scheme (List.contains_iff_mem.mp known))
  schemed scheme rest host port known found := by
    have all : coreSchemes.all (fun scheme => decide (IsScheme scheme)) = true := by decide
    have named : IsScheme scheme :=
      of_decide_eq_true (List.all_eq_true.mp all scheme (List.contains_iff_mem.mp known))
    rw [coreResolve, schemeOf_append named] at found
    dsimp only at found
    split at found
    · exact absurd found (coreUnix_ne_tcp _ _ _)
    · cases found
  origin authority host port split plain := by
    show coreHostPort authority = _
    rw [coreHostPort, split]
    rfl

/-- By the standard, a socket is dialed through a target exactly when the directory is absolute and the
address has path characters only. -/
theorem target_core_iff (abstractSockets : Bool) (tempDir : String) (pid : Nat) (id : UInt64) :
    coreNaming.resolve ("unix://".toList ++ (Shared.streamingProxyAddr tempDir pid id).toList) =
        some ((Listener.unix tempDir pid id).bound abstractSockets) ↔
      tempDir.toList.head? = some '/' ∧
        (Shared.streamingProxyAddr tempDir pid id).toList.all pathChar = true := by
  rw [target_iff, ← readPath_eq_self_iff]
  rfl

/-- A relative temp directory: the start of the path becomes the authority of the target. -/
theorem relativeDir_missed :
    ¬∀ (naming : Naming) (files : List Char → Bool) (abstractSockets : Bool) (listener : Listener),
      listener.Proper → Present files abstractSockets listener →
      ∀ b, Dials naming files abstractSockets b listener := by
  intro reached
  have dialed := reached coreNaming (fun _ => true) true (.unix "tmp" 1 1) trivial
    (fun _ _ => rfl) .python
  have rooted := ((target_iff coreNaming "tmp" 1 1).mp dialed).1
  exact absurd rooted (by decide)

/-- An absolute directory through a target, and an IPv6 host through a parser. -/
theorem plainDir_dialed :
    Dials coreNaming (fun _ => true) true .python (.unix "/tmp" 1 1) ∧
      Dials coreNaming (fun _ => true) true .java (.tcp "::1".toList 50151) := by
  have plain : (Shared.streamingProxyAddr "/tmp" 1 1).toList.all pathChar = true := by decide
  have unix : (Listener.unix "/tmp" 1 1).Proper := trivial
  have tcp : (Listener.tcp "::1".toList 50151).Proper := ⟨by decide, by decide⟩
  have there : ∀ listener, Present (fun _ => true) true listener := fun _ _ _ => rfl
  exact ⟨(dials_iff coreNaming unix (there _) .python).mpr
      ⟨by decide, (readPath_eq_self_iff _).mpr plain⟩,
    (dials_iff coreNaming tcp (there _) .java).mpr trivial⟩

end SpicedbEmbedded.Clients
