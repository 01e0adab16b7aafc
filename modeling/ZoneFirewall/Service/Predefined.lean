import ZoneFirewall.Service.Definition

/-!
# Predefined services

The services that an appliance knows without being told. A name with no definitions exists there
but carries no protocol or ports that a rule could match on.
-/

namespace ZoneFirewall

open Definition

/-- The predefined services with their definitions. -/
def predefinedServices : List (String × List Definition) :=
  [ ("ANY", [{ protocol := "" }]),
    ("HTTP", [tcp 80 80]),
    ("HTTPS", [tcp 443 443]),
    ("HTTP-EXT", [tcp 8080 8080]),
    ("TELNET", [tcp 23 23]),
    ("SSH", [tcp 22 22]),
    ("SYSLOG", [udp 514 514]),
    ("FTP", [tcp 20 21]),
    ("TFTP", [udp 69 69, udp 1024 65535]),
    ("CIFS", [udp 137 138, tcp 139 139, tcp 445 445]),
    ("SMB", [tcp 445 445]),
    ("NBDS", [udp 137 137]),
    ("NBNAME", [udp 138 138]),
    ("MS-SQL", [tcp 1433 1433, udp 1434 1434]),
    ("SQL Monitor", [udp 1434 1434]),
    ("RADIUS", [udp 1812 1813]),
    ("VNC", [tcp 5900 5900]),
    ("PING", [{ protocol := "icmp", icmpType := some 8 }]),
    ("ICMP-ANY", [{ protocol := "icmp" }]),
    ("TCP-ANY", [{ protocol := "tcp" }]),
    ("UDP-ANY", [{ protocol := "udp" }]),
    ("MAIL", [tcp 25 25, tcp 465 465, tcp 587 587]),
    ("SMTP", [tcp 25 25, tcp 465 465, tcp 587 587]),
    ("IMAP", [tcp 143 143]),
    ("POP3", [tcp 110 110]),
    ("H.323", [udp 1719 1719, tcp 1720 1720, tcp 1731 1731, tcp 1024 65535]),
    ("SCCP", [tcp 2000 2000]),
    ("SIP", [tcp 5060 5061, udp 5060 5061]),
    ("PPTP", [tcp 1723 1723, { protocol := "47" }]),
    ("DHCP-Relay", [udp 67 68]),
    ("SNMP", [udp 161 161]),
    ("NFS", [tcp 111 111, udp 111 111, tcp 2049 2049, udp 2049 2049]),
    ("DNS", [tcp 53 53, udp 53 53]),
    ("LDAP", [tcp 389 389]),
    ("NTP", [udp 123 123]),
    ("MS-NETLOGON",
      [udp 137 138, tcp 139 139, tcp 445 445, tcp 1024 5000, tcp 49152 65535]),
    ("MS-AD-BR", []),
    ("MS-AD-DRSUAPI", []),
    ("MS-AD-DSROLE", []),
    ("MS-AD-DSSETUP", []),
    ("MS-RPC-ANY", []),
    ("MS-RPC-EPM", []),
    ("MS-WIN-DNS", []),
    ("MS-WINS", []),
    ("MS-AD", []),
    ("WHOIS", []) ]

end ZoneFirewall
