import ClusterVpc.Net.Cidr

/-!
# The provider's records and requests

The EC2 records the code reads and the request inputs it builds, with the
fields it uses. The SDK gives every field as a pointer; the ones the code
dereferences are always set by the provider and are plain values here. In an
`IpPermission` a missing field and an empty list are different values to
`reflect.DeepEqual`, so those fields keep Go's `nil` as `none`.
-/

namespace ClusterVpc

/-- `ec2.Tag`. -/
structure Tag where
  key : String
  value : String
deriving DecidableEq, Repr

/-- `ec2.Subnet`. -/
structure Subnet where
  subnetId : String
  vpcId : String
  availabilityZone : String
  tags : List Tag
deriving DecidableEq, Repr

/-- `ec2.AvailabilityZone`. -/
structure AvailabilityZone where
  zoneName : String
  state : String
deriving DecidableEq, Repr

/-- `ec2.Vpc`. -/
structure Vpc where
  vpcId : String
  cidrBlock : CidrText
deriving DecidableEq, Repr

/-- `ec2.IpRange`. -/
structure IpRange where
  cidrIp : Option String
  description : Option String
deriving DecidableEq, Repr

/-- `ec2.Ipv6Range`. -/
structure Ipv6Range where
  cidrIpv6 : Option String
  description : Option String
deriving DecidableEq, Repr

/-- `ec2.PrefixListId`. -/
structure PrefixListId where
  description : Option String
  prefixListId : Option String
deriving DecidableEq, Repr

/-- `ec2.UserIdGroupPair`. -/
structure UserIdGroupPair where
  description : Option String
  groupId : Option String
  groupName : Option String
  peeringStatus : Option String
  userId : Option String
  vpcId : Option String
  vpcPeeringConnectionId : Option String
deriving DecidableEq, Repr

/-- `ec2.IpPermission`; `none` is a nil pointer or a nil slice. -/
structure IpPermission where
  fromPort : Option Int
  ipProtocol : Option String
  ipRanges : Option (List IpRange)
  ipv6Ranges : Option (List Ipv6Range)
  prefixListIds : Option (List PrefixListId)
  toPort : Option Int
  userIdGroupPairs : Option (List UserIdGroupPair)
deriving DecidableEq, Repr

/-- `ec2.SecurityGroup`. -/
structure SecurityGroup where
  groupId : String
  groupName : String
  ipPermissions : List IpPermission
deriving DecidableEq, Repr

/-- `ec2.CreateSubnetInput`. -/
structure CreateSubnetInput where
  availabilityZone : String
  cidrBlock : CidrText
  vpcId : String
deriving DecidableEq, Repr

/-- `ec2.CreateTagsInput`. -/
structure CreateTagsInput where
  resources : List String
  tags : List Tag
deriving DecidableEq, Repr

/-- `ec2.CreateSecurityGroupInput`. -/
structure CreateSecurityGroupInput where
  description : String
  groupName : String
  vpcId : String
deriving DecidableEq, Repr

/-- `ec2.AuthorizeSecurityGroupIngressInput`. -/
structure AuthorizeSecurityGroupIngressInput where
  groupId : String
  ipPermissions : List IpPermission
deriving DecidableEq, Repr

end ClusterVpc
