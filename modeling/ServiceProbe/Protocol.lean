/-!
# Protocols

The application protocols a service can be probed for. Each has a lowercase tag by which
parameters name it. Two of them only ask for a connection; the others greet first, and most of
those are left with a goodbye once their greeting was accepted.
-/

namespace ServiceProbe

/-- An application protocol that a probe knows. -/
inductive Protocol where
  /-- Any service at all: a connection is enough. -/
  | tcp
  /-- A web server: a connection is enough, no request is made. -/
  | http
  /-- Secure shell. -/
  | ssh
  /-- Mail transfer. -/
  | smtp
  /-- File transfer. -/
  | ftp
  /-- Mailbox access by POP3. -/
  | pop
  /-- News transfer. -/
  | nntp
  /-- Mailbox access by IMAP. -/
  | imap
  deriving DecidableEq

namespace Protocol

/-- Every protocol, in the order in which they are listed. -/
def all : List Protocol := [.tcp, .http, .ssh, .smtp, .ftp, .pop, .nntp, .imap]

/-- The tag that names a protocol. -/
def tag : Protocol → String
  | tcp => "tcp"
  | http => "http"
  | ssh => "ssh"
  | smtp => "smtp"
  | ftp => "ftp"
  | pop => "pop"
  | nntp => "nntp"
  | imap => "imap"

/-- The protocol with exactly this tag. -/
def ofTag? (token : String) : Option Protocol := all.find? fun protocol => protocol.tag == token

/-- Whether a connection alone answers the probe. -/
def connectOnly : Protocol → Bool
  | tcp | http => true
  | ssh | smtp | ftp | pop | nntp | imap => false

/-- What is sent to end the session after an accepted greeting. -/
def goodbye? : Protocol → Option String
  | smtp | ftp | pop | nntp => some "QUIT\r\n"
  | imap => some "a1 LOGOUT\r\n"
  | tcp | http | ssh => none

end Protocol

end ServiceProbe
