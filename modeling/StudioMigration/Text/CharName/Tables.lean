import StudioMigration.Text.Packed

/-!
# Names of characters

The names of characters, packed; `items` reads what they unpack to.
-/

namespace StudioMigration.Text.CharName

/-- The names by their codes, and behind them those of control characters, corrected names and common abbreviations. -/
def names : Packed := ⟨333885,
"&S^6#a;5KZ#|1P_G[D_ipQwEJx8rodo=@H+^1>,g@S#<ejVTo9x)4D5~*s6bb2ah!B4207U3@)8W8k&N]N<r6a2:y&711Y?)kRWZ7fwN.pBw.ukB;K6?6:h
35VUV%CosBs^+1pbHH(5r&^G42AQWak~GEwm3*>p(!#bvca<*9P9G2~N3mV9PL.g$s+tm?)b=IM:=Y,D=x<PjpIU%|<6osmidp?U$CQlBQLu?k;0sJe$8o
U[8.L!P#:o,H#Ru(U%<JbwU7and,!HPG]Q>pnXqx8]Du_3<^F~l2^MCVO)[bq:m]+Ml6D4m];teyAMVNa4ecON:M$/tE(nqz7p%Gx957LhyiVAV/RZ%?FUK
iicMirB|cpUbPm98iUsMHK*3b!5$e,>,!p~5tqcgqFFBco$+6yM,0iYXl4*Q(])<nTfb5Hv.+M#dEs$$n;n>vBj]dK(kH+c#jBo|/KmW!uw#Y=NDEC)y
W?(=+NoUQFAV#4$1=]jl#OT=/Yp&^<=3JNQQPJl6gbLt7!qZ0)!<oey39L0JkD5I507uLDIn<fsu$)3(9o^Qn0(:q*:K(/h3O2aY&FLZcH#;V9.v!g1mtt&
oXl=@I+><K+Q_8pJF,JH|u)Ibd>)aaT$[#,xzoXI2&4:[v@b1+/1POmnrY,xe7+n+WECa(ND@Psm.yf[)1C/HEbc2<R@vdLdzw=wE|NrTb;0nD0sMUl8k<9
C8Sw![Z)C~ml:J>;rvs77:)1^!=0n=7fI^lPZap~LYku&B*gLWHTZyB<:O@J^h3Ie%YwP0!H!r4tEwXI(L%(s$!Id@_^h!QWqrm36Or5)RVLgE5kvs4$%%[
7TmQRg@phbelHg.plb#ylB0$b(:Kv)Kf+#sG@!uKUxIaqA7Dm6%4Vpz/|K0=*KO.[Cvl<fod;;VG:Se]0hEyG^/XSBpGZ@&)rd|)8#5$uo;Md(gL$#m.RQ
p!#vbEO%(|q/Qsi5viuPt]Xy]wC#8fLr(t$F?hWX9o<_jE6T@ehjCQrigHDIcSS5t8ir09+SUdkt9zci[[I>Obd(0r)NK5<u5RXnwn4(fZx?p;QMFQ|fy.P
MsQl=uDcwS8]JT92XbW%TLk1sw2g$TbpijQOz]NR:V+XHYjOS6LzT#ZWvGH(3OBTxkh=J!SPy$J62S&fQm5mxFtVl6mzjw;z<a2OU3o*Zw.e_6*0>J<K>M!
C%sK2&[)we+?SOkM.ge7WI&UietZ$d[N9y]~b3(Kb5$F/Qi96Y5%MD*5vn=ZFWgt_]](*SqFYsi.N,HNPa3NXvX770@_!q+IRY@P!+O:NUXa?z0Na((#@!
4^(Y~ijY>bzwx.SmBMs~dGdE|EPn.$O)L#C7$QhNLBvpc>d?f.|2_>o75qGao#[I^3g0kX3|jbyY<_3|JZ~]|7^Bidd|U5&&*0yYw+)l&KIJNUdTuvm3UI2
Q.Sw08Yzqo>WNA$TVXS>g@wB:R%;J0Ke!tt5[LFUpQJ!;HI>D[TLj13$%XUpmv#a65Tq0omk&0S~@+#PP1Hj<7wJ>zGow/#?JxUVpgzL6t(%GzxMGO):6$!
m&|TiME~EO7];9mk*Nk@+6|P$9U#7.Mzzbt5ZS|s<Ne_GH+N?zNMN_^o;.=N05xPkl(nRLr0h|e1S%[.*tw>[W#AedAG~RJ/Wgdf6:E(1=!H,B_cPmL5<1d
qw9&)tGCxy29/8d2G50Mp50#oJ@d9@*[$)$MelgIrRm2I<38wf0v&C%[p|w!&JoAK/9J<SX0#r>[do)x[XAix$,ahKO>B8uXkSU55B^*1i)cQJl)^,&A$nO
KGkT0PY3G2N3TyLLmN~@C1T./E+IM[Jf1m;|1G7;dau3T#3h:TZV;1h.afRz[YgrDl6tRD.KNF2sS)v(6s$)@m)JKL)QF&g2u&J7~Tgyal|>=r=kR2%b%PM
U@H80Eb@oZIX4e!S,uu(IFlImA3BdZqkWW(VfBy9fLJXp)4g/x,Y2c0xR:MMRlgx@c8=HUPjuj0&5gMs&PQYe8[/;l~3I=4,_4w+?*CeDk(+.=Hyd,Klkt1
Yj8=4o?b[x3,4zlpUDS0XI8sXZ^~MUDh~54BEm&P2eERb$f)9NoH?l#m$n;XRm]J$fd:yDA7W$TVz4:+k0sdOJ7bNS3[HDn[D~jCgV?W=##i)0Mi#A6^04U
g|Zqd@WfM$AFW$5/&F)jk(V!K_G^e!%6(xK6KQF(L8H1$?4F*ic60bHTx|Vh5thDVXHa*]dpjQj!1e2$iGg0BHbhn>93K(8_/zXvT)D+1r_^^J!kLeyaXv)
gfc)wX2V@|?6,b5ih|pJ$d)f580rGKIzc|*p+EK+eSL6JOvXkr/vXF=3jXlc>O6$bTfn2e:mspbjb|;;l3WEC?xaArNm*]1Y0:W%E@z6Z*g~;xo&h<_Q2f(
4fQ.ZW]LaA%vEL[M|(zX:|vs9N/beQn1nj];r0UM%HHx3gR;gt6LVyv<p?eXykpXiw=Lzr>Gpgszqmb1=%RGm8zr5=hXVdE1N&A@a8>V<ts(C7MgO^q32|;
o,R2egJ(1KWKAZmcO#xF[8)1Tift11/WVXVHY(GxCINKaC!X=!+yA_5<o*#RH0vT/NVnL!r$P<f12P7#/v/JKEoEsP&n](K(D;,1B(3;D<_@Rf!$8<?sE%C
oB!r(;ghOkHeOKd~4|=(!=98w(cABKQ3_y7sC>41<rAuFe+3>G%Ohwdp=PI~j([F!lAgiy@nm#M>s9fg(*Q4dz5JDAjs,|o,jBi49ylCU<&wpnLXUuh3VKD
ysA=!PrH:]i8E@aCGG1lMKb?w#ht/CAH)%W~Qqq/#gc21;Qy_ZUlZi12=Wn)hkRU?C[4?*sMj|Dc?Pki<:#?]=?S8XxbO^AUHD50OzJ:Na@G1R|wZ<xx5cH
Qz^r7J[QCwu7pPT~^V<&DDR3]A&)!M_hkskkD3ah*2rSW8K^_G83QP!^@TIKI@~TFML.^DmG:MC;]zY0(PNVAOQ>2Dfn9L^UufjzAa]p;@L<;V6GVU.MIMm
Gmw6s,B]pAsz^3lM~C$/lv+!~Xuqv2?/F&1<qA5Zn_AWqL+DM5X8i|ZQhej|>jn5PDyJv:^h~1xu3/2F_tN7^S81J#kGanTs?%(uWZlz~gsQoPc&Ph5U9
G@/*V9k]Y3NJ].Q:_/&HD6~n@80.^?:uHXpPMFCIp)yinSzjD@|AeL<Pc33M.10Z^Gz3+bY=oj|4~lHpg;_cIBb#L$45KVzvonGt|q5dQYIbq#*V=ZQG42[
rR~GIBG&J]AofRulzV|P%FJ#yuUo$x>KEKB;;5bp~J|ET_fL&UMBuEBQ:RU))+zDTb+Mm[Hy!euP_)~9ImOoW14ifD@(@)f[RMFj;(Ve=?Pu#]:9i/JH=Q
Q$xxG~;KKjuG_&bk]gPK~Afw4>rD3wYAOXO,0#r|qwZ(e>eCX;G=yQvIb~t0ODP[!.LAzh_qV|q4Jo(ajqJrOEnKj4/&GPGy*OLn)UV2h&P2XR8:#U,6p.b
Y4jvxp[y%xUyCCHV<+n%n[;9rNo,SkY2VvC&LLPx]_Ftf57lx%HFa(5/0rq<|t%jIw;b_@W%^ve@iYYh/%.dFR&^$T]Zu|Ym4pm:|/iU1@&>QqE^.U$Tw,?
Q|>Zqe?x5b]Lbl*1n_PPpvg>E0:%c::TFboU2w][2jS_F|7#r|=wDo<JxLp@=pdm_G.@xtB^2lLIrFC(AI_5Nvcqb1Y=i5k[S[ZsPw~uvr:Vdeq$nc_/^l
l+];uRRhbY(]y.oXc#6TK_y[1fXg/7e.D*IqyuQ2SjsBC3:NKP|6^#!4$20dYsa#A:U=4B4tAs=W#=Iw2nI;K;_8Xp8x3C^g7JrKDZe1@(8B.Wm[R<ds|70
C2B8y)1WIZB^=XLe2iJwJz#))P^5XQiF5]:JZ_]]F.SOW7>L9bL<v[xLMl:Ui%XdNIvx!IY_+~pwE41S[mmwGo/iWCv>Cb7;*Po_NS*:g)4p[OYe%AlKGt~
W+O/x:f,yW6HN[+V[+kP8!e.5yA8t$p<(RR,cb85M2>lGd5c#^|iw;GbwIU|T:H4eJaC8$#0*#sTM*Yn~%^Xp6Ak![nQhZadAEn|006bi/~5Gu)gNp>:Q,M
Ym9!^n*j0En3<?G5XZwEUH*6rLso7Gk9CCUh2z]~mg[KGNGy6MJ15TrYsyZhQ6Hc[qy+L<l$!<@rs=jw)d+.Q,teY/dIc5O,aam/O]fPu$]pR3rA[VULu%>
R@h03;pZccYb^SGGD&+d)f+q(M>yB*%$kQYO~H%=8qI4>KFZ3?8%h=ZVh%obwjSz&?2:)]fi+35ykK1Uz(~@O!qC3AraYhMwP9mc|W@uxheW*vy&cWeQ|#1
33*#f~M|VoSy<Gl=GFTC?TYOt*l41C:Tfz#UB26jcPFeoD&wERRS(UsyK(zOJRfUa8u:^1G=R+)+o9;LSLuK/H@]IC[K$=;O)?fc#gnmQCf?p3*GY&oV%g5
0tg3SK1>],(t|0RCaHYZ#J4(+f!bJkrudLqX7d@?6myyAtP%#%TQVpk1e;kV>UmTbI_n0v%3uq]]Q%@QTXsr9.LoDG^1L&iV_5WEcXPLW8*r;J58]h+=)up
G_eMb:67:;XjCSQyc$.A^M^Aq?x=FSfBj!a6KSU@&DziS8<1:l#428q>&B31I%Dt33=wB+*TBv4$:q>t5Az6MNGpZ*O2U._z@0EvNNq(<xr,.aaW2b9a%A(
MFl<Yy&0w*wLE4w:(;q9U.FKg|%_TUt7,,S:;n1C!j6W[<04d@WZV(]a3CtSL*Km@:9:jH!!eE23#PGYzF;^Q(.[ZLDP^D3@haTJPX<;J+^kI#FE3Yn)OyA
V2_LH#bFVA_z/A7HbsSW?IT@|puBmTC!q6cb3[,!X_Sw?3i]>cICJ7K@|[&6XPf<F[U(WF^rF+_$;O?[$DDX:<O]H5.DJl]%b3ad2g,|n7pmO=L|,agJgcZ
VAD!Ifs9=6sTG7[QE[^vUBe|gT*IMwx|oX,<Rab;rnvAmaJuk03z5zrK:)4K&<L(X;38twZQ&j1zT*8G^8o?ZPdK3aOY6q5&rmV*[tbwt#>R]CA|EV8&We8
9E2/DPlLYOhrtpNaGFeT[e(LyyPo5!AGiryI88Q8/zr^bO=w^DUO2+NhL]?xD.>VwB1L?bd6~#ft>b(|d,zr<U^B__?H,rGo,oq6]d,/M=PKV,L?KRQ?n
l+:y;O$)(7h2dH:kfUL;Z:13mFkJwq=3K&V7>]HB)U^&g&dFC0V^5oOjiOL/x!d1akYV+k]%1~?y1<KfZ(,krQs5b3;wj6mI9|%)~Uiim<L*gVE[XyGFp]
V^m+53S(=Zy^[:QV7KCfpruE)mT(V?5=AtbVLQZ(4K=xZV<f[)pB[l%~D2F^$MyyjedXg5=EArzqfIdZ,?R(~5]d$[2WJ09]~NdjHd=[[_H~ZCOxu]0?=~&
tvdtB.ti^RhgT[u_<SbJ;%A&fX[i(:]KkjR?L_pt&~z,KN~7c7IeD4w48W*S_&Z+,$A!w,i#@]UNFm3<y><^FMoQI*$W@a5cfb]4A|IF3KJk1D?:v3][vpi
J.Bqy4;<;jY_!99>A[EZpN&F%7=W;#Uh)yYnSWa=+/vSjgGgU3|0P*mj=s;RO22I#(~3qSzrJ5zX)rAK:cTq6zp:(&HT(kQa#kP?6|qZpew)T&,:TVSEo>y
LG%ynN#Z*FZTBjkuy9p!O4XHm+|Rlj+aRDQ2PolLZ=DkR]qacu~Q@+X~~B=yi4gXTsT3dz~)yxQ@tSw|zG^,v#r4_Vp4W;gy,6<+peBP$(!mpa|1gw^H9F
q]a/8Y:W<Y7n[qTAz92$^|LlUPgg0hQSe;Q&rvbpRz0KOaT3,d<!.RJOoqRq]bB?adJIUgbL<bOR^mtZOm;y:WDnPneJ@Mpm~V@sajNpU:)E0kmLhx1;A
G*;)$]cq>DI++UK1D3zGp(sQglg8anU0[Sz7jti06ApMtbX]FTfF*~$X:#%Cc9dqbc~xc~fC#crw2:v|Ndb7iH|pULED8E:D*/Y%H[g(w%feo3pR$r0&UoC
U41dC|O[QpU/8aY#ltel@$Vkf=XX0rm6IMW3/F2Ep_ePWTZ<WzYr=doNP?0X;o.Y?lpSoDt!F33D|f%g7?*q5YN_|4z|dAG4vOf;VF</qFm[S4dAaB.tWM
f/1b9u/;=59dTvQW)9t*5F./du=iU7JaxK.tkn22~1OZ8z+nWPD!Dv@$W9/hGRNhlx7al,854=g*9m#05n$*cV78;/]h#BVi;d)(c=*6y9uD4%gYRpL+2PJ
S?ihxE;49y#28o%inw~Mx*XPndb+0$nF2THbd)Wfv8ON)4t&EhXEH>ah/V[Qcsbevt>k?Sjdnl(K(yEjqp!S0(^tow@@S,at!>zB,2||!(SCJ;_|Q6|C9<@
Ah!)xAVBw>fg|L?c_kbC1XUa>9a]gfPuLxEg%,%YG^;Ki<mcivV#*$ALcITtkGfQsb#?lM$7l,k5G?WFUc[IVSY^eT]+]IXc2sr&Tm/i|gWl$YvbJ+9@)(v
Q2,R51Ny,Hb06]H~9N)#v^J0~sp?b>H.01G[OW3hpOirgEE7rbiwk=gS8;l+*x[uo,WkPXPyB2Q|8B$mg.[#5)e|5n6K&/Lb?dQ2?Y|4nG8m)E5N@WGoF
R$#e!xXGy,stb[PfD*Q<UM(%7::@ex2PjZ.iLcI>Ld~=?8(d|HhQO2E*PIQz5lz&0<Lcx$nAZ&B$K*hU+Os]B#o]3#5Okx(%X|n(&)0qqQDtS<aWGM06<nJ
c!H5=9>trwnPA<acz~n*z9+I4*9U85:_kofd:+=!6W:d7VzO0x0I8|j147(Qwa,CfLc(kJ8023LyC.14+N]Nbo9*09dDQxUX+px.>HPusRWQi?~o2#LWC/2
K0Ae4#l<)wHAX992.(dlE+74qjAT(L&*M3~7a4)0agNbr?EO7L*V:I1>mWIQ:1LS_,QiZgg?^#STG3Uw(&mK.3c@Z/6Eh]<jC)=G:l60~KY>6?(?W|WU+/S
x9wysu,^tc!%j66,i|6wO%AW|^@XzV~*VemMTT*rdJg::BbS1wD7#_;LiBMa62j1H.yOqNw:/2!R(IrUZqd%fIm!3pI8iRB6i1!mswfTw!XgA&XD19TJR
2?*n;$D1L(MzIz;@6$m_fuukx]|ziQd#?>thJwnrrcGQ5pCF_DIW=eESB:^|=#<2gkmt(yuEHw(45.La]u_Z^:iR(RPi<Hr~v?*K6:I1>_jE5r98!N8fz7O
FV[pS<~:$WCS:Np)7+3s:H~!RRCqPN#.re(sj+]PmA,Ql_lJY~|d;:<#vOi9e.tat<yU,)=o6PX7cPNci~d~Xl]Rkj)c=+0L(JhR[K)$V&fh9,xxLZ_;3qI
K8[P!jw@Q=&AGN|k_d.I7*hO5J39(@GB2KtZh25;V23B^n&,3!NIilhnK/JTl)[~_|(e|B,X!x5BEBe7uYpB?ZSzJ@W=K@0pL8Md^TB_sFROWx0K7<hW!dg
FTatGZbWn]C04#f9R]ytsbvesOfm5Syv*yJB0JE>SQ)xVNW=0H@8Tew:gNEr[tdV5h(]d@;siswA+cn#ty|F&(cbl6.PPo[s(lZ9bjVpW1BH_[/90;!:Un
L]hqr#gxB(n*^+,D/*I=)^6m,EoFK8RJtfQ<GTl6D#F1K/_wIaMZ0t^=g?Xv>rnppt>$~b0$vp7rS0!CMi0R+s8DwdsR*|!r.i;?L>MtMx5eJ~icr52biz
N,1$m+j8qR?Q>AX,28jq6l]RMg)@#D:xn!78[rOOvaPp$G+@%vN_Sc4HZ5n+$w3_b|L+<>?|Qe>vDyl2wzkC(004+&4OM_BhNKD:s(_A/ypzisJ>mMFFDWd
YRLLOke@s3/$+^$v8&~uy.[rVc*&q3dgV7e<S6g/bw3~]6n_5jL/j#%KDN<YL*Qk7Kap:@cb0mLZ.GyG;%;!gMlDShmBzBlB(0hf2O8f@!p&6@;h+a=9DsN
3kMxj(nd>b)jpIM.7Qg9WGHKw=2@VE+J<HX[?=0>M=](4at1Z|)?)fKe?|vI$sj5Fj+tu&+eqc(E4)kqHnQ>b]C]N.wD~<waAPS%ODcb/67OCNhU=3Luu4
6#U_s(#BC//r4Ph+F5#yvQea]%6DfCd1p:>S?3uOOTQhi/.@Vy)y2,CX!4gmB_w]_27eZL6GZ2+dyOPFBn(pUdMi6z4iSlHn+%*tQ[:QO>9Pxmg!9J=s5
T._)~Zrgl2M4hC;%Pi|]QECkNAM^[*Ya)9Sp[@W9XG<;CVd3kFSL$m[|0i!$qXFuhMx4zrSzGjP:Wp3x(5/1P<Xu0uRC~U/b0@rnzI<<vlwe;Aszb>yhV
w?;S;tay3rlvT$GtxucF0;nduRPpo.Ay2QC?<^mkmNx*X1C+G(w_idyvAqv0|Lz+MGytTLy;<1<*|s~#Rupr&3vyhF#_w~=YsYAkNS^9G[MY5[gjSsnv36j
q.G8RKRxYQ@:2o+68QX9jJk=xr/^)fjIg(H,.D<f3k.VYDAG*?[m<bsl6bC4#jkfXc?@>:]|u=.+dmvZGjaBqyF>!y%rS:&#2(wjb:X<R8mC&5Kjg$+#BI
E$nyQDTIMStFZpfyDbrm]nl>Mvd:0nDAWUev!>^UD.p7?o8G+t2Cx/r*O=EO:xZ;AY1]PMz?7E%+IU)S$&#y%k50Ze?bNKqvZMKmO+]/NRWEV8jtLeG,9p;
x#^=(CYu>q^g4urg0=bt^zyW%aZMdTo$dbm$C:)50^RBf&EuZH:I[8!=AOG:RdLxzSsaAR$Az>e@Vx<xAp.LGTV=nEb[l;><wFM&M;MGt!CS|AG?|yF$%K@
Px?7$:va$x5im5!Y(FK:g8)QJ+_l1dSW&5lg/kHWWcs1qrBzZs1yU:=T,nl/L$D@]<F=]@_f0OfCb<|hGyaV^&|29fcJb<NY!Qdjew2u&mo/qnw7$lg_T2f
Yt&#Izi(bt3f:5,^F;+@:D^m)wX[=woG?=m>Q&fY84:(A0;R1&dcNaJDZ5v?p3Zb1<;bW)#W66I*&Tnnzic[U%^CS#(u*6Afm_*AoL7hwvEZtSA]Q9#Q)?~
B3nW_|367zbqRylIHL*%8#Pp:JN47UP57~*!s&NEH/iGlQ5xZF/jB#9MG)Tet0N[P31(L@vnTz%mBCNoCS,N,sB8t@.Nu)U0DVmPnpOAf;<*>o(XbifEW9
J]vW8N9&MpQT/fF)j(5tlF,iA8(U1F:R=ZFI#d/5G4J|2D+!g2*@wSlUQc_I4F~_:lb9.|zc:F&)dS&fqvmxc)TZ*e%H6l!fQtEqN]%K%s68+A7f&.dkf+
l*Od<BuN6c*~0WL?4Z.CWZc_LI8v&2V*~5Z(*lbHp>PMnF2VK7Jb<4Ue|HSx/mfwBzx3)E,_fA5gwCc6RrB,U5^JwZDswH>+K)+c;@JKhd>@:IU&ZPx5;_s
O_iO89%?O#4n]@eCih]Gwy=;!.e^5aorX/PQVx?0zv3IOFWI,!h2s1?RHUFs36C$Cq[9dg[D+(WaIfEie^;t@iB69=wClb4wrpdQ?W&<9W>*v0Zf^P[4[)g
EF%wu#b)%mQr|htWsbiHKtA)#=aEv9FZ>]mzBHIq#O=$4U$vVY2U=vV~6>cJ(3Y7tSm<:u&0uU9z.9k!ueU9gm=byo?rn~<bec0,js(Z:eP_/KI?,T#CpT$
7q/ryE<DqvEF0I/%eGC8@9hRac$7^Sr?OOg|t7AWXFN1pl:NgIwCUG|jyQ<E(fN%VBKc1=tG;K_Wy:Z*OB|ajm_^5X=xAtUaPA&>NdiR0/8wPB=oyu_._o|
Hm@g~Wk<vwl^&i:EAHsWuD>peRAz:~g><Y~Nf7tajlWhp0h[9%zEu[v),<IFd&;a]FVUh|M*HaFjhAJ525_PBf8z#0&lDfRtjT,n,r=YKBiddX0hZW0HTse
xe~1/loshIo(ufD/r$D_I!xJ+cywk0i7BL!XPW;5EQhP$9r@hTQGvEN$HwE]m=MUMkR:*|GaSupGL#St4gL^Jx!]f&n!+r8H!?^Zmf?Wi%m_k?.=F?3M^S:
W8[!S_@=%+Y>pWt###xYzw?*0nR9[4$N+$KLBbFVw;wp^4iHsAg23[Ank]&Wb.yOe%FpeV(x:j1DC_2W(i_<e*D,8S,opJaKoxt2OB8(nEH<%QTiVJsNjD/
S!ibJ(Tq8x|6vS#fE,NrIz^4FiW(phx7hk?i,ARnc=Q6ltY.KkVn%+>#=,3M+,%;<Hm+=*@sT1cdFt;):NXWyoL&7ZvYbbe%(pzm*!Fa$9|dz_%V64Kw=_b
uT:KZ.si&u^zxk$[N(#J9qnY06&Z^l!tnN|]W<p?&n!7i_g(.T#MTNa~7n!XnU#H&)do@*nLM3;R(.86X8F+~M9t:BiD<:RY%w]%I;Hvj4Fowf#a)KFbx1;
U<u#,MG2Dm_#LB>:T170=L$7ybP%]|UXq.<.EPa<LQ7%hY|80%xk@9Vm6QnzC:X)U,E6B4ogR=i)n5cg[4!GHbI/MrEj!(.!asZ;:oKp>3pGGyzvy1kG*#*
C3?>D@~yo;t8T./C4>x.d(eD?lJ,f9Uk&,^)ybvaFlvk8+ejGXcX_j>vCS&X#rzCQ:_bac,_,99@dB~EhdcFR</#*OCvC&,N,3=5PQ^<>uf@Mzd<clL<U3)
w[P(S2TRGI>%RDOM/s%IKyXY9$fUbcXO5h4j/O9<13E.TPhbZN=Jl>l6]K@@g2I!zE#%tnycRAo.$F%S~J29G1^<s9t5d;re#GDuEz9dYFa&h])hXkhN7MU
m~pmGlz+QLlFbhkK%kBxy9TLqU4k^mh.z1k9gVMFa@Eq&gjv+ED!|l(33!icpSoc6L1@i_s1.V|xdJ$V[D_0CB$~$V;#s.QUvVB6[kaH%P.PKPOdtIT7f7C
SVNj7I?&7d<S.l^n~U6oJnwGye2z&#GNt[G>i>cL.u^wft:_k.zAbz!)C/qDOGDwZ>19)G?$xyLSg+VCY*D,H~FIelgr4i~[[N0atl[z#>_+|8o<kdm]J%
A<aTGwE!(MWtLwr8B0M0*_H;?6E0dIUB82SAhl[icj*_osSiit!w2^*t)qYw%SPtlZK0y?.J2PY$F%f5$UAZI.!9w?&u[T;PjW&,$B14Lgl:g^Do@M_VA6m
U+ls#Kk,Pu@l=SHSd5;H/N:QO4fe+|kvrPLHc?P,#._J/t6ub6MlOB?xpVD;u]U_A[=*#wO$W3e@Dz.E6,x.fHC/HZJYk%.<o9b/7C?wcl?m)u?m(PGA4,C
2IrJz::w]|k^nBNqHpx_os@zgJOEU)8)5W@]94a(aZE5JUOl!EJAM_iwa]<axp6Y3O_7MZE$Z,WN@!|60iRoB]u~N)5zB2sMUpHYjX6P5G|mk,hoGu1690%
jyqgmyy2:x$[KybNc.zb[Q^E@72C%0_W+3(C6,~J@oP.F!+P5OFexn2(sCm>^<os?Tx/7jb<)aQbO+H<96%aorPd0GpUf(@|doYyYKIg[.lMl@0YK/SxFa9
pW=*^SW%2XMPio|Hi:UnNU&_T/wr9B2&k1dx|>b_LayPoQ&Dd_+(C_EBu|D9MrEZuNPT72_::?6eUkTV7<+7j?~|D~Fx6qg=/kzvjei~lyk)IY[ebG[^HSz
nA0s%ddC?+cl^!w#uf]wK9Z8fNYA)#=|K>XE*_TIH0=YYbm~u@1z+1!SQ+S@d>4v7neP|hf;kPKfyzvx|M5_?~/h$8TV4/]LU_I;&xIpGT0i$YHNmd1XEf!
E6#JSO7(([q%6~Qn)2KY>B[Q%dPZ#[x,wN0u>EN!DN0&v#?;&*/[5*YT!k.*S)qeApF<j|Pu.6g2YIP#Dl5jwbZabM&%6idUC;ng#CWx=&X%JdETQTW
D(#!=E5O9y$H$k/IGqBA6siLp<WkgJTF(A1VhZ_]d_Eh/yGbC>?&sl;EIb|h+Eo,k^+|Z?$xy@Zb?_TK~G9yOP~~$3j@I?,AcU/WUyb~uP*yNK=F:0==VYU
tUXJJpkqwWK5]~SscG6_1ot=891c=q*3>5F)8GTT)6mi9nud?mFiQU^ZbX$ozorV51#AQ]@WH4u5KQT69G>jqitXX]DF$k4//V~I7cZo&XJcs*/yMRH+#eS
5)1uMDwF|4dQTrltr<)yR4s9,fOlQ</T=o<bu4~S9A%XG;of7!uZWN8%n+VaKrRROU=6+d?U.nuw&P]rej#9OlubIpGfNx6oD$N5h<V@NuR)JcsIDCh6UX$
Ugs&kZd,$x.ttcL|wf$DjPN,amt*Ge!,U)cpF&Yg%KpXs#]zdwO~]A!O~|p$^#_CZ)VApa=K2TddGhpG7(~23?ZHb%E;H+lSR||hvM=!8/ZwNLATT<y2I
a/_olNdNMaq]n8f31;Jtw88WIt~.+2bW,kYK<o:U7)bT)lbUp3?1xvJmxFqL0K3(zvjGN9X$*_2@Eqt0vz_W2w6=!>Sb=3|&9ez)_SNyaCcHIY$fCD[s,#
l[Ro/9&&qq[0;gmFqR_Ld+UWnH0<89pav~XPoEohzMJV9z53v(U2EJNL(>Mbb8Dn&mRWvNKa6._vuW4E+B8&,AK@ofs~ggaG|@f8AUZ)Q:?hg0AI%$,;8JD
ctJpndKVOA[mEPUQ|tP5$Ve[#gA4DyPh:*Ep4$7Gy.tf.UUdpyUeS|p.WcWNlRF]wRRkR*fi?:(Tct75*S!iM*H^,HEp6_<2dJIp$_c>Ln[oQ8z+2=Bt9|e
lJlW6%$snLa4Oam7iuSx<j15.cubZTzP9&$4aw^5;@Wb~%LC_,/+|GFv5bC3Kg*)@ozqC[]6f>=[|:j>?p_4HSC4t0v0W_,zacFSZjMKOvg3|7F+wiq]EOl
KX$jb5JDN1Ibo/etfB.Umk6XqNnbI%f=m=o;B4%]jfK~fd]H9p).eHuE;g~F;lGCQqf7wSCs!veft<@Y+!V40fxh$Ak/>RAe]v_u0VdT=~frh1@r.YS|r
3)?[hK%_#/Mq@0U0D/nXq~pOPv9q.QL*P)ygsaL[&BVhYBCNH|6dp2R,,85X_UjOU1n>gGVN!XE)%zaJpI)zSLH>0PPXOW$q?:eXTPj76VuU86@m8FE7TCQ
Vlq7eR)?^G<|D:vU.FPwdBOMj%SlA7HNAcLGBz8CEk:;2xsrmnkN^A8ZK8a,i<$1H/;2<1)Lzd)_jZvLKfHqj?[mB~=SO/2#j[s1e8TgcdJR%PN2!A8P8
i[#=;3q<>Y|J_wpFGHyqK7x&/@;F8F>B)|?hyUO|o2OxJFV?%_%7g@QYI?bzVYflKdRP0fqNq$JX#cepXrH]5L.kbfNuro.L!zKQ)(^SoY9mCRkA*IC.~,6
LFCA~o$:VCERn7O=q&>,!N.JWM><XLW<x7)9Jb(#gA[dvOT:|EL<V;<^FBKe:~~CY^ak9SNhuFeUN)z7F=Da+&P]:i8~332x0@?4HPC^_Y4O|lFT@Ze.GQ*
uU]y.n6>WNm+|dV%ewv4RCuVZD.oBcZL,hGGLI;NZN0gsJ80:fHc8BgTo.;4>oqPfv=*nGO/,u7w*$V^[e0~4=k%7eavKHt7Pp#~XlS<~I!zKHv]Xp:WD__
V#,S~e=NTs^uGsBcp(?#GT?Xm:(b!uK*rx.?]N>N)M=]!Ad76~:o([G^uHpv4fNWiixzBA_9/4F~^Y8hPv)p/[kX@RYzUD(rFnIe2yHRwo^.+6XWB+<+zk)
Y.$ZAV547,qfkU0U=AkR^vPx|xzI##imw4oVRh9a)~T|dex7F.u^CY+RzE[+r|ofm#Bek;OmV>Z:c!TIBKuSN,3R8I5J_*GnO$1[v~AS^8,Q.<,$r]ym/4O
2z?GoUvdj@,(VJwiyGm:0p,FN8eg%nLpjmk=7bCRBS77^2gFKWWsF!E55gSR*IadV+)8NlJ=KOpxgC^x%g+684d;;f%,UOni20D24=:VK$pwi7]_rhI!u?q
GhWu2~%48(b?9aZiY|5o$io|!%dc[Q9qB>&fS1;>r5)Z_>QdGje3c8$t;=fB@PegD4Z(.Z&F,gOVx70KL*muUf[%e#Dsp[j8u&i<bZO(:tU4mNoaE*)3^V>
noposx?%56BIUic[lCZl+&[SDOxAc[[cLyOg^ykQn~*=&YxtmrYFi+X53a!&t_cLfn/Z=Bt3<phun1k@WWx0>i!4GJ(&FfyF?U$ESN337#hmBXX]GM/TF.Q
Lp#d~c+wo2KB*m^2^VVN<&m$j1Dfa>@.s;2uB$m.ZO6_;v_~gBf07+zGJ2:@^ioe9>v@;)%[785L%tz!(iS#RWC[H^d47b^Tw2(w<t>7Bo_NzG2nSlVj*[S
23y5t89w!P(a~7wLw?w)Icj[$mdQdNDZ]Sum=XsrAE/4QbX(w7%h$by]v;:;h7jbc=5r5Y/8zL(5!SJ+X.h)V|6)|u&?oFKayM<M/7IbL,CdJauZb;S^w7C
mQb;iGUMQQ^A@twj^WT,!/6a(IbJ&J)*Rwg>;WaX;BC*mje2#Fnbm#vq%*xr=4bP(X3Nbd0;>P6.3#C>3U52D/+31BYa):rG&)C;qmXsQQ#hGr@mxPdXr5
b_24l!YCubSc/dG9i:7A&EhqmO|ldJaw.0Rpr4B#^PDAAg>2Ff5s3vL5^][$|4YQb_v[KGrxxa.j]IALDFb0D+wPeenHf?hxQf^dK/E*iLiehjblooPNScd
QXBMPUb=*5EP4w5:w1ae$(KzDGR=]m~b@j;;0IL3#8AL$Wd05?!QSU#~gC~i#NdZ8AaAorRl~)cfOMj_=2+r;bj*^3Nt|,|DXWK)fzgCtBfJ?>kp~kOfUA
O*VW8,wvUN7,qKH~T8uf$(r@I&/Zll46qWt?e|~wB%X$3$>0xJJ|r$eJBsP;WY1L1=Of%:|LVtKFIHsU;KNYG6#7TkA<^uY>qGqz4h],kpiEMSvo=40LB2<
A(R*CM~,c*x+yDZgjf_5([p|p?zEPYM^vGx.]/]tl3L_S6)M.)Kh=/36t5mC4a?9&*NjdyRC]%Pw.7:K#:7gXlj]HoHX5B(X~qK3?rpa<z+ehInWTSIDz49
hV0Q+uBQvlO:Wdt$CAijJV_@2(XInQ&?oMU@zG@^Fl5h4.A=_ZH&*$/53CJF$H_R2q0$lP)gT06FU5Z6Q_iV)f_h=JP,JSsVA2ACKG,aq9fzc!.Y$Eji
X]%]Ypc=okf%4<H3b~cC>iVaQMQ4]1fZ!+LkLi:]uzQCdxm#Nx11ZNCQw0OH5@R3>0&$5$MhS1wk9s7Htgbt6E$I0V6BwRt*:|w(G[QgIEd|9W[8IQQkqzL
ow#6Qd+LIIY=a&DlQCTf(uLBmk2!0ssKb0)UZZBxq^sTu/rsGUKR=YuxjZxDrzybnsfPwu+(YJHqC3qQ!Wo0FH<GAcig[vcN:r.~Olgn6T1:|B7*i;@5s$!
oYDo2S^MWXj0]RNJex!m]/(nE>g/Vt%Vk5<sRIT1IQedV;&W8Kq2H^vZt7IDVaMm6Rz%kA=zDZmgMW]|+%>j[S4aZ;Aq5a@pIe#F=|m9t@bC|2<WWwz4^~.
Go?sWOS[v9/vgkICa7hTU62bs]T2</o^pNP>Fp)n/b]*/G^%+7.8~fFM#6L)Ze@Gt|oV.wh;Vu;_BVYZj1M.lWbO7OnOJZ0xKEn2NK8n=g]E.!:c]7;iy,w
ZR(BaVD#8$3|xbn!EhK1_B^[CDCXL;(INYp!1FA6BV9gDh,#n3U;D4y~^FUAGM#V()G<2Pl?>>Dob3M.G./danF$I:8upWH<O66ZDy[GH5I]Z|U]e*9N+y7
iTIU]FuGY3Yg%dj!jVy.yx$@%U%Xo@@C|Hfkbp6,&=~[5AJfc|[y+~wx1H~&YU5L#L7m:a1FS0Q(8P%v|,.R<<%q(u|2W(4pvI3i)>v3;8^.OMFq~0Y5v4
D_U:1]Q/eJGS+]e/24lo?#:$S*uI1z737clgJ1O|1T^2BSxIi2|AOW&+A%49uJqlK_lqXu9kj9&I(Fx[l.d.N<&kN9u5XoRKY5[KuYQ]zr_/IJ&i%zl4w)0
n@6[|WE1r>nZKq)9OnO7@bsD!2>=2aaj7tO1bjfFN$?O,]c[RKEkN2y/IW@Y>4h>#O%3Zip3e.v9GC<@j+,Y4F.Y(Bmi|?x|[DS7=A=TBNpSq^1;DgG%Brn
zp443,l/ZNmMYf2WuyaO(+w)7i~wf]Wg|#uJnVqBZm^BM%kSNvxC>jaQ#?iWFT@hjwoMgcT93Ca:*;A|;i9X.z~JKU?#*Phzn?H7W0t^A;Q&)C(&!5~u^l|
R19:h$8r:9S%_6#+(D_ylFg/|ekTumuxA9&#zXW)>yR.G++_yJ$|M%T$O3_;3J+|/p8wB4CM^i/u.T9Dc4T#&Jg+CTXx/tL9*6X)$_v8fJ^|Rt5Wa~scpj*
7[tV(~yb7)8%X&gmki5HaJSKlsdWf|3O>GGZW[Ek?$mf:JAm,)db&7w_UDhP!K|^F*L9wS/wZ[M+7tl<0zcm88Hgbek<W>p|y/QiO(XJbsWBoQT$Pevn$/
4^![?57M3:i**s%~bo%tG>M8]e=cgOUB%>UVa]E6ak.H3U2R68|;Ht@Rh(0z:xjB1fK]2RIZ3ql=eBz>UY5mQw=yKIOq?*Jg?Nw!@;IbOB#$FnJ#6TTZ&t?
IID$vov2qfZndY4Akr#78iSB/r4W)6o@6>mxoUbWuw%P|(~~59aaSUlU0fJz(4*]puPCtY&g7Sp?g<[5p4<[f/wW7+ZVSF7<MW*N=hul#5|T]9DwUh3R?;^
BcE[Pw[2/JhF*N[;hny2eK;,zxsMW2F+r=K(tBI/uz+Oj~_dnVI;CTeK>r<;t&iRQAHo<U./zq.+Q<,mjGLZ(7jwd|iUvV^AatCwr([Lz8O11@_$GJ!2V<
4:u<vVr5Rkhhm.&M=riy@W@v~6&Qw8*BhMLcL^7WnL:)ptKDT%uJPef_hzM:V93rE.I<JJNFG(ceQT!vF4,U+os?O|EUs~x^KbfbqJNd/_4Sl*13l2d2p&
M&FQTb_I=_csXzim5w@Qu4.H3f$B(8a!NID7G5KeA|gsWT3HXb[Nb!&42s>~X6W&BVMV4Yelax)+V:A##6I0%*C+nE]WS629slY9LuLxfQd>>:H&Pq2?5KC
v:nmB68nI4IEF5b3QUwdL#[9<ld10DgW^,o>L8sSVOV6$[fjcg/q7q4J!e[*2o4~dRDH,,Z>Twfxg5pW^~porwslZY*MC88~0x_((S|LG!Kx?1.#$/,Ga#:
JU.)??s/lx;Ts^pq$9sAnr[<?*cr[c=QPZBd@.NOa2$Vr),.T|gV+&nY]2kM/!yIF1f%L.LwO/p,9k>@:)npA/xi3d:%YvsmvNNe7ep,!%r4U1!BQh2$Yo
I&!JI|T2f?ZUX3,D>!88@HU3o9a*zFI$s^CmtTrm4BoUsW+f3n5cg?o>|%<#NVW?4%.p[*V//Tu<s+Y/m:0(^0X_]>vy1i_Z>0blf2+mK$:xvL[d,0lDv4:
C?n1*gJ$.tyI@oW$$)942seSb)l#xJ?N|X>nb!gyJsTL$#ut#%1J]I,#~FzCV<n9p*Ef5kN/dU]!38F]G!LEk7Keyk9=q/Z<N(^u?TcyD0.nMW_C*nrlH~t
XYDw/_qW5g8nI<K<AaS_33KGn&rv61AAyP%;+vALlp&kVQV^hHR1Zjq@4=G9fO0QBg0b&Ach,$QHUiF34I!H7Ro+FR#juMkdWs]kR&sVw:N27tN+aMj#U,c
G]$jJ<ul1o^CD^!nUOx@eO_gbPtkV~T<]Zti3!yI!R;R:zw,iz<V7tnhpE9~,(Oo^mR%S$bxLOax|a_$NW]yphC3)?7<^0w2G2o8++8~K51QW)$7VV0KMVU
h.grg&qv^:u3yfm2eAIXU6b<asI+0nQ)Z.Hk46W1icRH[;5>@MF:I,]Re.fHGxBsAbrRK+/OV(2>:?8Gf3JWWQ35Dt]0pC#IC+S5svi(V2H;?vUEC=tfw.
A;o=@~7JLKlB[W;!wCn1k8tULT:8gr!;W%RDOv>a]t<h*E$4%ZNUK5)pa)hU!xu9w[u1*vRxmC!zZY]4HY=f(y,LT*(7.@dZn?*8xQj3/h6>+B!2T:3MCfl
7xUX;O(UJpy1=g43j~Fee!,$a:wN?1Mt*Ch_[vb.$e!O@xB8hNzw_Izngxa@PJHn@z^q(5V.G9nOMksR/2:_Otf|fZzyO$X&2|H.&~eQ=Mtp%|@e9.SK]3E
ZB3_M+PEc]z5g&xefCbZpNbbhXyWMB/eq5z*~lE7GhTaNKpIXsns45Y7y^/J/_~K/[aYzdB?7g39lO:JB|3tjv^gdFJStnsX?E]DqB;M2!Nm$>3aT+ieUFX
M5AYi(irKShs_!d2v5(!mK(D.E@7;@wA=Zhj_65ZKNWjw7uxtAo^XI>oQ6+~QbCM@MUv!^0:@Y.uIh~tldfy9g%y]a4_01xTThlSjyqJ;<*O?N<uOI(NJ28
Cp;%@3K%bk4eq^qrCb[_44_=U&7IZX%1iFLDPelQH@rcg9O0H%yJ3QUxGG3uO;ywdHO5g]ASSn$knN;hHp~8G_ebdq*do5>:q*=u|DGvlXGWK*&#bkh6~~
N:dd<on/YOI!6jm*9Dhmq~W><@t&3,/6V!KwVDjK#1i~RWD8]wPKq9useq;k*WdTT59.v:@]+)X2c.1f5t:TkOh$1fTNs8($dLZjg@N%kVf$tC|$T]|z5
K>]0*yHkRqCCN,b:=vi!Iz$tJt0p|Y0$?^kcuL5v43;#cILE~e,:Kpacis_o|LdeU$:I^sFtX<20i!|YYEKndw.dVu,X8NEN~S/=XxHN%N!d;ImBk9+/](:
V$uQ<,hyzi[#jIY]JR@T9hORf?%A]x#wOm1M.1^psOW%(oQr9]n)of,X77)~dd&?=U2lu;6.#LL235,xewHjB(%?1*X>l<O2</BV1WByzT2J?GzbQw3(nGw
fT#P/vQpcH9^IHZt7)b)?^X#JktN%Fb8TKwh;p3uqI[hqD;3?clDYFQP?]EVV]3DCDa7*j3SO;e/@^$9g[xu_][zxcRXvD[M|d=S%Cc=k~5==(,*>R3;q=:
z?tv;(2su<zFnzvhSvgZvIK+n7Gd(%jtX1uzv1abSwwo4rXZZ#b#8q)n[X<[^CSU)rN170c^QU*BCD%7m~y6ubPza5X9y<hRN@,riydrwZyi1Zk1YHDv[fN
F%=PX@=UcN3hXJ~cwCKirh6~~.Pt[!d?CJFMOogWjmRpU=sj|9%zhtpP+e^bAOw7/q=x[u|K(Qll;WB?vxfc+4Pd?Ww2RK.7z>^~v)k[F%RfJ;>qnjuWgW>
pPn]~!:WNuiQi9Y/H4fj/_Imh|U_@A~V8v#8J[d1v;E,nthV,CjhY.c(@QR,S6j94n_lf/[Ew#H7ZM?KI]GIQbV8^m8GfRpp4VXF&JmF%j~O.1xY0LhLGp*
t|tz9>6S@defhW?nE3nV_)52Iuhjx0.7d9hN$2UsxImk.bCbzRQJx>wy6$/AjHNp&p,qQ3~dXn(okB~!2r[Wfd|Sz@oI/|G)xIIFr0G|*k*=9G25dgZRidI
dAmE8R;ZO2/WigA5%[:#plgWtD(o$~fJ_KDHX2DeBH]]aSD|a[roW=6d~T#Pt+Rn>kMd~L3(wU7S%)D^(1H]@sUS,2Mi16nWZ^ftPj.CY1]*pX@b8y<oA
Q$*mXiK_LO<;J;!+684[Yr^dXD4IYr;64v+(6/i4]|OV8wrj1!JMQQ?KaDRS*NCFe,6fOpKm_n2PRPpMNjgR[$^d!1_RIVj:1;V2o2,W&?NY$(QfgBr~;lc
ayUC+xo4m.>mW.Vg5u7GpmgjqKIWk4&N]RfROJAG+Mzut)5,ho?m1wCtT1Tm_/fTZW^?f|!#R,itNYKSFH>j,.bKsJ/[vfP3D3i@x:WWmcIBb8@B5(e.C
Y&|HS0ZEp7DIa|VnfFe30)b!4zE+p@FJej|l.$:E9Wpqf8Thh5wVv@VJRAW,[OWg7JvmFf<e#9JwwmrGNl_O^iM<JccM1@/w4.v;upz]L?y%Ku~,(Fd31
R!!iH+dls+0H2ez?(M/LQAZUZ!C,P&(;D51=KUzUT@*hnbKR3m;$2VCY]tOr,9iq&Nl+_X|fw2Uj[d=Acg!gJ(011H.9kTy6+%#nMN(y?WsurO[r/jve3H;
jmA$znSqY5q#+jVM(ni~TVf&!Q5w3zu;lD7uXMGm~=evLR<4S+vupq5f~:1_i|,vOpX<iOALnJU=ejL.6hD~.0F#oNd|eBu?pHPSwD33+<lj)nhOE_^$2B%
Q+F<=1Krx&Sv,GiU<005nGr,.I<G6I87]h3;dl7XCRIr^EE7ceQjCc5WU/U.4)YB8v_+YR7h:^4!EXb[h*gQsvEcsvXDTe:/KQB2BQF<]O[L$.z#m.IQALC
kW;CP)P3;?gbs<(hj7pERah(U|wR!9vJN]SZHmA2bXq/+d9a5NDJ9~Cp3./9*9JeNGVNgwL5Cc$LDk%2CewV[usZfa(@nm*ySn&)dU]_?fTzmxDR&GJ#]J;
ssUf@YZ&X&0Q=CnQC,Pj^z:*%_.%i(3ex.;05;w_~[P4A+$0C#3w@lSkU..gvJM0iZFqMPG>o~.BG[AlD9lgNlwlP8l8xmOP8GJ?zm5<_b#He*!@Gn6/1|R
F^qGOM>gojip%H)UkV2oFfxlIMK#@OC@iUHFCy%ZRsE[N9?f;oBW71u_z~!kE9iG#1o6tBv;0z?jWarS+obXHAj,=*X5n7+n!pGt5z!T+e>+WNpa&q=kpoU
RIi;0c$VUgv3g_BZFOaGqr:eKynioaziJV)sBzf=@?a#2OrYmQM@0riUUpnJR+V1hFaZq<4Rx0~J#SO|:t94.5Z8y4C[2<@hdLN8MmlX(*<NX<3W5i/1,P(
uvA><Mg:7HWzRAfW#@H]tUqRn],Kh5F#;ccxd]POIapZ:2I0yxA:<nB(HXnq(c:2Jw>~GoOkTJz05;zU=*Y<rTk]j(Mc:iI8*%aOCA(n=mb8,NTzp<d^=~)
mB^*|j<|2OY|eG%2mVdVaAtGP=nNma#xoEAvL?Wcjup(Vvq4F|:q$OMCV?s/=D13|5f==X+xipH@^p&!bj2XspG]R+S667)b.n5GX&M;fL3fIPyd!d9&bla
TbQdt:])bJi+:m+8#|z.*qz#1f=]S/Bo#h|%$E|gQVyj.&9Z;Q!d:987Q&V@75Fr^XNpK@GoH]1C;=LdQg;uoT((x*sX].F5o^NPP);%#^$C3ieRRFI:~sx
gwXhY[^wAlYVE[>ht7w4YQ1UgCiw_psfZHUHB%%_CkAi6j2.8I,L&sNPEC*$tbyDVSn4YTcD$jS((zY#5)7F|3~iJ5%6AnSET5d@=H51)KPHZQD~SarN+=i
t&meR(X:[Ip0IkS&~m]W3z9f8:EAZ9~JrZFD1bgS2E?=RQ411!f~>]I:;naGV76EqytOHBn$EY|U3<S!y)teq#Apfl5%J35XFt>aY/_0^eB,g0KzQHWxF1
J[9n$UpkexRu.xd8i~8PS<A+*icrsU*3nIr(sun!7zf9&U^ks)+mPUjmr1>32uD<TeaE6mbu4ORSBOhh#7;SAb<Wd&)p]fX6>SK5bbpX4H]Fczm%jd1>4n
l?i,8X%~%JHgTi>R~qMy_62ESrHr3oH5Kd$p&zy^j$]EDR=8mbtTgsvLuA5[*$sOOs,(5ylCakQ@;1uVNu$kEI)M,;~JI*KlCvvvcqvBY++ejJVX#4U299
p)D(P8ACJF_0+UibMduY]vW8FAeDz4Nr6y<j+,LBJaiVa>*&K&<E8]0voWLHhg2<RM5=V6=Now:yuhBDH5xRHmr^uV>W!;HD5DoR&3)%0=EX%n9$H@?=.rz
d)qD[7!J2?]<qO?YCBDd?h%Dc!Q$v[>s/0=UnAXN/%yBl.VfGInGR1M=.(0<IV~h2Kp1mip*LHIJ9&5[:31SLP[*7HZn9K@|r459;AHG[Ak8BhCCs9bQG)%
IoArY4=(|(s<xsguL5[6%<Z!Qmh86t2.&v>dK,f84#2jJ?xPf_zo[>TN/+8__~):W>x8=7DwAs[p(~_3IPTvy[U|B,IoA$[[*MNX+Rb]|6owq#6nUBX8MNT
js4AsTjfjlM&n)McoRg@Z]Dtpv!X#jjzdCw*^~w1oV7EAs)_Oe0Fn~cHTV$~[8430!6qu7ra5>=<+80!7KSp]:=;*V6rZ/qCfi31;=e#%1!S5cYe5%%]/le
c;=#]Jo*%<ZDu!:p]j5<Wa(A]a)<<@DS![I7>rXndaN*Z@<tp*fTQD%Ug^T:nqb+KF*R#IQ2wNM=Ek.ZEV(XQu_]@I,mjP[|UNY|@z0haw?ytP9LwGA+C?
G>[Hvd1|hL~Cb/pzd)*M#!aaE6lXHaP[Bp^=&VkObHWYL$5Y2<x=RcD6!&$ZW~k!sFoHi>nqku4Q>@Sk/mu/1Oj=m_r*Bmy[ej#G._AD^@XC5&zqKaCo]IU
pYix+]d$)D4/2efG:^=s0uctA):@k=$Z*8pyMU4tkqwFi$A@!@=?4<T*IOd/?xN<D(Pt@<lzlJBT[?2h[cNKFE8IZG(*qTX?F0^pTGoP*,fa#MQ!G:KKAg
n$e5fAz;A)7JBtO8@V%@5<bV)y%YS_kS&7#b2ngeLp?5Y2q4d9Vvms~0da+3aMS#elR?qrXF&kgw)/sC9=4r.(+_Bdmryb[p7Hc_t]F>#@Sfuk7^FBE
W,+&_LT=v7wRR<,K1r]x8t2Vj?::;1>LaaMaX]_iAtkGTA&yJFlX#S$.|8,3VScSnfV26pM;Ci#4Gmbx^_fi0Z,TkRF>2sbhK@Fo8!:OpPAKLb&395zTI
L[<!_n/GmKx.ZxM_OA:_g?5OnjoR)#v1)E7Ok)0,@GUG?_+$4HHw$4#a$DZMfS|6x1)2QG%W50Od5%eqbg5<Wu2Ok!P,udR(1)1n(Qs]m2ts%Y|9]#f(35M
evNqD;qK(UB~Iqq);DSGPDAjg9@Sd8z!/%cgAK.NtWgFajh3Hx8vQzp,Z5d)7P*z$x(Lyd7>M3Bw3:>rW|8$5IcAt%Jwe<p|#WeBb.;Y+jI@%!abkHD]C=
A_@)ls@UJnI<f&C,T,M5!<rn%6|O3@e$eDM~>=q+&a^_n!Ap;FMwP%U|V1lF6=RMGr5|K5r)4u69+<90v|G@Ey)Vxp9<1z1)~ZmSwzwR)l@adu@#z>ts.v
n<?Q:r;dB8lp|1aYu?hDT9)xP|jOF;ziYt.&qIqwx>2H;KU&=K3ucFD7(3E;_:,YVUkMLs]DQ33)Sq40=)zjA$O&aM|Mv+#2>Nj;2X1hmK*OwVq/,G~k@w
Y]R?%GQ0P4ARDUe~XH:Qj.g%aPWkuUXLE(PTi?ubQ/E#HWmtM,Vxg(p?7y0fI&KfD72Lg_@RXkmg?qfoFZKm^jZO@!T<L]RI<M@#gFZJt7?cu/UiDt2(LzJ
f5:1zv++O5]r6@a3fim>kv[X_im#]N93CCHDHg[qlI)RYNCOBYfXYPSUuRs.U!|&X%*iGOln<?N<xZ1AVhJih%|dCF[^dAd?p~*N^z#ii4_kir,TKC38<!!
DV4ao|<zou,pG,i6)z$=k1pbpQr,A/Wl^We~USGd8Yp6KKdR!#mS^2^2|CY60aZ@3~6hSjiF@CBsCseLS8se)WM_a?F1adCdv3JW1WzZTuDqkjuuAG2g~Y
t@&>g;Z,7.e4u1GH5E&>]eGJAm/=gz99h5)#RN*4Sw?aVFxmC8<xole=S)hN&8DWscsK4zWpL/!4Gju4a*.dYHCe7:]/$sL>u^e~lG<)KI_4Hbstf2hT04E
wAT!$mj@0IKO/zTMBg7]:Li<B[Sf|o&%jvTJB?i2q&/WOd3rzrXuGL)UN7Y@hiZ=z5(9yB&F]d%EZ0T$xrL$0qb,z!Sf9+E;9_kkvHV(JH*s/h<_28%7Z
b.&J9:1iO88A[KU%9U@o<&ri7D:3M.c7o4KFK:5nRn$BvJSpkgeye;LExkIK2yjV(ZrE+i(2k)v&q^Tz^a<ldnmHFWJj=TvD(BJ3;z_rceMkLg1G=kWm@(C
ef!vG53SxU^oGevo[Rg[Pn=)gL&U&.1IIqW|f$YcZ$phHPk%q@r[u$+bx3?g=Q|;ff<4RFnK)8~Mxd3+XQA)v)sAOfH8vSTPnxwMk0$ShQtZ?])8+VQpln
n,_C</ISFkUb,te;7$A+RJ=3[w%[Zrfy/|KM?ylNPzc!+[Cmy.UHw(UBHa+_^bTCG;$#zA=bldAQ;&TgVGj>:^.d+i@^mBOyN4s!<O%;TJ_%tnkakokb*Oy
EIA:Z~S3hpgq]MhOS:Cwf;tHqWx|1BlHxWltS+Tqnf4i<,E2ggfUevsFYd_h71LCQb=DB3Nmn~3*H@T[c;i&],GgV@@d5cO,)vjkQJaL!5;c7_Yzygj7,&
l<O4PmHid)f?z1A~&.&yiME,%;qN2nyF/@y+8c^(1.Vclt(Hwh1;uHC,LtRX9yFN48A?%.a5z>wuA~j&U1|P5:KG^.<HfzXv~NX*6>m8DW&4ns?Y4m,c~yi
CebrNfy?sVEw(i$jr3I35P:MjyTvhhzOV~AhT#0a|x6D[|ti7MGZ0G,jN.oz(u1%_Z$pC;@Q313hR3LE<ZMlU13sGCwirRNj_$s5|5~?0]sj@S%^98VbwkO
b(KkfTU@7JPu8K56^9Xpab3*=?i7q5hCd+QQWb#a4s.@18F]9$.pRXNpL|LZ!RsOi&l9:/iDnsDymcc?qGP;o#&miOtScE>rR7qt=l_zyR.u8DnC?k.L01b
0Oeo!jVNk[s?alph=hI5Ik#DA[y=kv0jn1tGdL7v~p2DC/UQr#/nJB?Y;2/%r5uP?9wK#Q)=)@N7We[I?me.wpFOmAwXh8a7mMM@c|hOOVsZU8cLNLTc+v
v:0m5iKNOsCQhrR|gveHZE=Sv6Yt?Yb:;w_W;Aol]iRJ|Z[b:X9?4k2#oa]q1:d|O<+ZvqKGH0?]W^,Ka|VQM?[6*YUK&Ru&7uz1EW2m[DqoVNW+?i5v1W:
3%uG*1e7#pVs|fJ~qJ_WMB_GkyZKGYu289tLs/#beD6e~)gUN|Ol^,,7&]uEFz4uev!1n!YEN,M8JKqY/TXJrx4qZtExAbP~|LIojA6u_VAlQ[d7:S8[2T,
Rsf%W^Dnqy9YV1Mh:cDp0^/%:XjFcW7>1]k><MU@wcTJ/peerKSvF_XyhKH&?_<Fb<nnlSt)*73n!Dk;Iw|:muMFY5;WY~k[QTuz]#c+spRXx~hb_(#w/](
RMG.er,!A:7_Xz$Zw(@ry~:7nc*bd5.Ca;$.Y=Z[)T?O3LVbR8[H1bmz)M0mnhf3s[ZbFL#*[w:yyYqKq0Y_8812@0Z8[r3L=_QU]VYrx8JMnpO#0pdxas@
t&=aDC=<I%9B;vN^O6i3*Dan[8/e^3Ua9Pz:KF4CdE|^:Z$ag:OKIh6Oc%E(!X&Ge.L.)CMVB|)kgTn+ikf/w+$vl@EO,ZV8BeX=OWRkSB2z*Vq8&Ta.4V5
wiumSex[DLN<pP2.I>,>F>Q17/lF<Rg9pq$F7<Lg=.Z,4.3w5q(EP4|*_TrTD,dvWC_ZV_GnEn=YR(O+E*z,3):6~Z(JHgI^OLJ[t*mjnz#e<$5h#BDaY3o
T?]?3ho9njk]%yiP_^0.kc^a@2a1g]lSo:3v^:OAnQi^DfTOjCoBA5OMh5(Wen:itAeO4^#!;[6&q,6ulpKt06)JVZlwhoH*4EQ6%08xM5Mh_Is=Hoy^f5A
9Y%seHLDj19(JRuJ^tvrVa(R__4Jk[_CY3JJV/QE12P7lHbxe,U:%#Rlx)>3g6C0g0w(.txTwleQ;!!^w%aZ@+2TlYCMLT(My(Dk!oMTue+Q;W1T]5*;$c
x]xyLuhbwN3^Vce2R,kLai<:r4+#%l/a(1+3z*Aaiz=:y4YRWW#oZiD%/KG)axQ[I@kQ9hqZ@.8A7BAmoE>4pNLp$Y[(9Nd@G)[m.<VN6JFR*j0*d,%p<QP
pi.Vt[8pk0xk~MsB(5Lq](fba;~dbxg7,e+v#kDY0^5DPkL?0A3.iK1LoS@zl+G[7?il[!)34wTq~ViH9BO(s:?|zV9zzj>2y%3cdj1NPNHXp(</^ws&2
z&(HiQ,fTyohe?4TZCPTt)Y_y7!W~cy$f:McH4DIV[N2y/BKR#b7g|G^8/4|IPW#+qKsL;iKO+S*6+qc>l2~.%8iGpxU_cqh#($Y^DM:~ataJS*6FC3.P7.
W0st&*U?2mVHdKzYUNK+6%J;56AjMnfB#x*5,LO,jKOZp=*zbUY3T&M0<qo9>H8e*T,gN5T.Y1^Th8*XfvByT$C.nszcf6rYzSCy!%Msty]G*uGCtxIUdgC
Svu5(Q3n<jU|iu.@q!tuF0I~xhRX&K.@2DVe_f0aFlM)Yv~O?dG;G#xI|!i:=92waaa6@?<)$5xF2Aac^eH4E(=n;(1NoOOZyo0nH_%iZWX?%e:SX^2&dUa
C(~MxEH4sK8)S~het8k1orDddo>37g1dBf?*!ru3+BQF~z@7n!4/dHxv)>Q^@uZn|+IG+&uQh;!JP#Dbi6y$LC($h_IiECb41xA7LQJ:F$#Ui!0+B,G7?x3
I0.>YvEZQDrNzP>+sY]M[p3^e2@w)@.8*P/Sz>vb??B[~Z!*9sLAw1@uBZ]Nc[LCX5v3_j]!/M.@<<E5Pi#(Fzadc3Bv5zBVtoc@>]TdD3uP(DKUW$]Tjc
u;Xrk=T@0|diiRD:<4Y=tQYcTb6F7C/D=m5?jg*ojif~tGJ>|I3[:AnJs<=rIepkHJj6r~PY(^^ItZArcuo/$0=vxxEX.:_#U?/*H[=jgH(y7C$NO^LfH~X
g6+)/?LD5OLO@=LfHYKXl~r)k++PuOtv;s+k8SP>cn~P3rv=HXL$0SEN<sCwBg8<S8A+wB._GUmWecqNl,>se33:53cNjfj^gY<FX]hk.)Ar3v[2yDJT09
E~PN#^ZJ@6QZ#bBFp0(QlU0:h:37gtLdw+gl]#X.+uQxNV_RMoq5YU7Z/px2%~=7CoqNyj4bb|>0qKN1kl*N>=G!FUcN<wIJngGns>vLe(zvehQixW9Ol#
K>S:boVN03hZ![?SQ6=CQ;)LqHxR.!GvW5ceq!:q<qEFPiPl4d/P#Mofh_)z$)Kl>7+~Z&jE!*mtuKYb~18DfzOe|EdE2OP;>|k#Y23%_o$JSzU^ng3WO*c
b_zt5tzll9?vb%]cyE<X;s6V|QP*:mn9/o<*TEnS;8iAB=4k;i7f[#o2Qd:n7>jFNG1?<RzZH8S7g$O*Wx5<Qe~wSiEF&X6Obw0rqBP~RLi25^WS[[oP_
K::Pe^47_pHV3~yH&Dn|GaNf*AR/xBBMaHf,WIb>=ApAKcoEY5c&Xp~h<#EtiNVwcsuQpz_W*1ue!LFhUZm&xJ;Ty4+aYgjx|TX2!7AU]vRyX$EHr7E0$&A
b1e&?L|ddv8/n)4UeK#oBe>lcg1Xb<Pz^H=5R3%+Q;lmU8,kW#auCvyF[1V%)<G8SB;f/iZclYlum#T*Gga(n.Bcd4)FYGY%khoZJf.dRlr>NRUN.K|?z9O
oU:lQ4Vq$ha!|m*2oJFQUU7hZZ3]daCmW!p(zNvb!LG)Jx_U7Fu4]ni,USp>gD5lv5W8z7,oQnv~>f@6W1Ec6LqKcVD!JBH8gcf;Z<~wmK+s]unq8BH!IdW
WU_6mf_%ihT8*iO~U_Iq|XYtx)S,IQVYwufn==crUm!8|kfWw0:vFH33G|By:8M,n47#Kx,>M6k6^6x?HgQB)SGlt=_l0KxN!r1OaS/Ws#rkr6.40E%(7
H&|Ru:_5r+U@1vX(9&uaIgA_4b#t%LeBUg733<B|&RO:!hG,m!HZve2O0u@E.+DZPymKiY8Z[g>[EX4hIH2^>R)>K)PAg8R]eZV>rd(j?+o*3_iK.1lWZ1
H.or%.W8VTP!<zEjhWP~aZKpU;YK$I^]lB+KEPd0LFR!q2v1Dk0~5?uaY?W~(nAh_[6FB0^4Zzo$&ty:x7>ym?/$P8s:c3CCLC33.70zv]%TKbPe0=d6g+
h>4|[Owv#A!LG%[<YYcJ?9eKT28eqNo(mPqO%@%V!0)?9&t]98v>ppZ*q*<w_.&6Gri8bQ&eGR~~6G|!,L7o91hs~pJ6qRk.W%K$ycId#ln&;1_a?8t&]vk
jacHIhsM9+sY[gWOXS]m2CzHX;@hy;V=af38YGLlVY0KlrDaO$x4hN^HxJg%D6J$(wDrlLO8+QR@d=wPG+cpr]tWGnK%f_H~G=]uss>GgfhF..M%k%#dm%<
Pvr?oFvSS.Et|(MNqVi_70Qyde|9Nk68SdR:K/I]=H)~V|:jHWl4L^GA2%2fD?PJ4P!K&[/]QnLDO#J[).Gl6eBe!~l%(0Log,6P.7_5<CI)5XE@4)lHXyY
Fjaw=zJ5AIbOi2_XG#4hh87biQ4sA>$*T:?9<;,ava+_|AEntSe(sRl6$X#=[L2>M&MEKU4FMy18moVA/|0tI)|:ZX4#A9N+#!Y*Jl$54j8m4lHvyG=Vzo<
6Ox?EquZ2~fOzWQ[DR:@&[9H]*]+Tut~6_sIHN@hkDpBL4/wXX_LY,T]ATnD>3&v;L*d]Y&Q1atcmBC~F=Gtjb$%|z1s_]dZ(W(K!=yzjU?hen%i[5F5J4
7*3v!O~#nm%d=:0K*G[~&CMRC|;otG+ivH:wuJN+5#hQy3?&crlJx:@el]UHxReRs.rN$&0j;zK&YKMA%0J=tA|N?r*nT;_>aZ*hAWg*jU,QAz6/IZ8BN6o
d.vjzri&xm4!U;0$fFG%Kezqb.u?mI73yBaWC5Hgvns9*K7ev3[T!uN3BJe/@:X<2W1V$a@4<ZjaC^WD*^oA2==YY@i*$8E#Ue8]:vf[)Pe]W5D1qgEG_T*
2e/Ac|OfpL%r(RR]Fq)zrC+.FC=w=C%4a*hnT5*dCp0>&V~W77_3,]E#OfK2aeo^!pfvQOvHk^3kU[dcpa/YagAg3^(,Mn7,T&U6Dvc;UVc0q>z=uQ$jo
A^/!R;)$8*fv0L;l:+aXS?D6ttn/X]P~vX*lHY<1Pqf_u.J,$Rf[p|8PbeZiuvQ0W1yy*(29,q7Evpz7g+zj>jN4nrLUl.SK[9<2slH95I?NwrW/CZ=Nu_P
N)Qt2s73VAs5dx_6]8RjbtsGqx?1=:#mvg(vn3riBTteF[;H*9Kv9tri:GrhyO?zx0?1L=K$(dws7Jmu51ziaQmZQzR*dglIkW,%1B^IcIKh:&Ie6Yx*^=I
F5WSqraQ,:;<Gacq9267WZ=#HnWyCYNDStztDpU:P&K4eHz>]N~4qk.Hs%jyZ3qMt(!SC&d8_vtX!m[dS8fLy1vAp4h:!3RBkc&:RCl_3zwqb%2s$m;pFBD
f*sK,<SNSTN@!eA%Fl3Xs?EC6D^G8M5=o7bjwM?Al4TA4F!3dTssHV1P7o3a9POXcfZtL4Dq)Y:UZkyu9A0hQNBNdQVX!zzbw3rIKw4Ar6^o[DwXLo%E^M/
Ajp+c>Ypp=L+,#PMLJ//+PiuRgHqqSGKgAHY9NZS##^+SWu1pMBsIvU$@*BO/gAO7o1$z64S>=WnF1w5mv7<,zMI;lu)AD<<$nCLNSPm;QW9X7!MX7Yyi7
s.Wph6C4N*e5(qbe6Oq6f&.n6nW3t>0o7FR3&6)lr[K/]e(t?twnn29zRd(VJr@f7ehAB.gwRTXhg($_X?Uk%I|xnKX9^~h**Uipx|,1(DI+L0?HgZCZ3H!
Y<qdIbATt*6IT@P~ivlAgV/W8gy8j4|P:$.ZA,j$_,ZvN40Ry?%Sf<;JGICkv~0[EtAT!a#RkI3uBREU5VoEDFO~|h|yLAgKk*bEF8MBJ5na8RUN]iIs_w
E&iNFVwjou$fjW+5BL+|CI:h4]T|+bDXwZj%pc(::6y=tt@jn[twzDgQz&Q)d>bE&Il~UnnE(nz9B0vkW0|liLv/*F@:aHvVoJho9U*)#)?cU.LGb34xe
D~?Aaez.p%nJLkXP$5ps#_>6(%^3J:0v9=0=G=Jk%1nO^o]$8i^KV#2uP|ft[B?,%Z?W<luyy(y6E&w:pLm<udVz,!*>S<O~/xCTc<IbyJ2qBlG&[X<jX.
p!L/ZrAm3cLqnenS2AA7^s*ODjk1tc+MPl+#rjcnk~BK.wfXzxO$8j)d6m=EuT$g>6H&06^f5SGWo;bwdYyd><SHM6~K;7fJYHa4j|2R6.ru#8a$rL4bdce
O@^<^6R1IZloY6=x:&mXX~4lI#4K,<5UE~,CC/C9MF9r+/WD$@6%:TvzZT)78Jruv!XMEpx[Q3^mZx*uRHtU/J?JDWW*gCILM%wF1x(|i_hY]yx(xcrmf|S
m*z?gqJKWu|g9t7~#gA:xT1[77>$(ZMr>ml0S0zil0PW)[r]/Rz>k?iJBuc>4isZA0IO%K[;Yw68j9BHD@q2EL1P_u?P*RGk;m|/O_3[pnw?K3dg00qdm_
L$WgN*bneCOzpQfAJq^BQid1A$v:g>j)z8#wnO?$uIUk(TdFhA0$Y_kn/Kg/q]8ylS.d)zKAv.L*r?0U79ycgk@fkM][pME9badki+RN]D/)^db9jg74;Q1
PpkVoyqxZs.WC[ZTFZ~ocp5@M9q|:zd9ir?~<_^>Sv@J)b^syU_AxB4/sax]FxKNlh;*sBt:g2udfB>DT?>0RrJi$]*&JHO#EN&[J~qj*!pxMK/iR(w=uX
G+[2(Bbe9m29<7CRK/UA+R)i*oJ%>lV$o62hbJgi/!DEpOe3~EoJ_K0^NB,w7nMvlZ7&N;puh!mhkbLwMUf[@Ri7$Z_B89]$iQ,YBh~vy><ZA#=!a+Ho&@
S&B!,+;E8,w)a5]Y:]&EccYIspJ8u72GvQW#2!nT1..W/+Vp11_QE9p%ePhZj4N/==wHr5~EI1]q~B)V!JQZa$w<gMd?w~2q2o&)%h%o%&G%V(Rhm;XLIO_
Sg0=P90%jW^MOF^qT~dtt=j_TSnZrq/2xVdoUQ@+ug;qS$_y|0G9UR!fE^Y9?wgiy<C4klIE;~m^qWIxXW:wjJlxZa67XR^[@XJR+mS(8<.:nx6&=I=fk
1!*!ab0|%mfAA,$U8tG0a31EL54fQi6to9+7Mpktx<GQ1O!Mq;fnNuV]/?v0[T8|Lr1k*SDBJ,&*WHJS.XCYe(%%W~FPMF^oL24+hgG+zXJ/Fe84#>[vf/_
5e0k19hG6:cki?qcQ&Sx[qqu<m4UhPz1fMOdcm7~~MG19U79%5aoz|?0$%!,hu:XCC,^o7mWc,Z:;1hCsa?^>NSO@N]+3(B]m#Kuj7#MSFjxH?2D9I_p|
4.%60E;ZU&5)=rV6[Np(,7Z1XlsM|qh|p+ri$$)<z2K2labXwYs32gGEvrup]6c9GS/7/^HH[~>@|MCpxb>SjwjK!7g3oA;J80KZUT@bPMbgM;e%cOc.LwC
7[pf2*uG24z)3.<j,DD@D1NiJfC?W$#eI?vpW/L8(p;gE[dEV~BX:sD=E5ZsJCH5aX6C)#Pt2PkN&_/XW|xFQ+?kCTjNv~8;?$Y<>NDRcYg*2JiTUbo1)@F
Q0wI1g,EpwnMUKeW~&PW$zYw[?N&8nsSNlTk#M:7SNqyzJviE!eA&zQz/RuF_$8qp.]>KW4j(8=:mk$Y*c|BW^k=FQPSBThH0P!f;Me5IW)9Z[>S2~MDrm
s&4q7*8sQ/u+bSx*@o($v]@~^nW*m7a+.]7cG&axZp=oIZWH2br/L+2XP:10T$Ror&%qfQ?PEw3Kg&PAs^OS2ZmqZ8|k=m<<=Tg6u?qfT1D/>,y7=W(t>n
h~Lwc!.&XG|#cefcq]Oz~f;>7m>sI$8#c*zCuF#Q#;$Fn3G3ihtJkmTW@>R8gSvrB*o^=D_aS/*Rw]TbTkz>.G0!|zU1+$n7^F<hx8jf4s6<Pyl/[c
e.=,;[89X8])k:jGqx@aqz7KqF6iK_12|%uht&4v,<=U?3uTvk1JB*M7!3gbB[J@z~9_C[BsNq2l@qua~@Rb>pB!T8?MaaW~k~Nyz67T&=WDV;p(~Mk62F1
zsOlZq&]Ebue.R;/l48mYenIF[|#Kl_l=^7camU+|>!u7[ClS1xO8h!>]luEV.DFG>$Y1AXc0E~tYV7(:VJ(>hQGRRHiYq#F7sWbgro1kf*^gGi=&O7OU0
X%4wxzZ[X_4Xe&~%D,5!;I,_9=R*>2KLI!/,]NAzcDEhW*8kDtAzY7pZkT%lvLdbr[/G[x4LH>|/1N1O[s)6(#gSxKm@BB4J6ZjKWr*gvAYe:q_]3vu<BN>
H]t&g^45B^>WM,w*hq;kt<Y80CJv@rq:k|rj]]*T8$9d.zTm#ng91w.x?sMVDq;+=.yN=/q)~13!5TrC7Vb<9XmcKC&f3&|k3VeK.riP6|7J:^_;<A9l3@!
s35Z_p>C>8=i*QEAo2n4uM&z#acR7pYn%L8F<ouDBrS_/:LC29JL!!cHE2B<Szyo2a&t0Y~h4L#?nrU0y*H!eK0iQZ*NAvMx:T.8)0uLmi;a7]0Nv60a~a
U<y[^th#N.8TN*]9DSL<fBb.?N6g<4prG8C?DtV6=ArJq&rnKJtX[p1r$d:=)(N>QjN>6yL#V@=~LY]kl:|zzerIO2rP0#B4:=R5#$m8X0Q~0$.Kqf|=iE
w!m#XhySJy$gOf6OIA$GwFST[G:&EHIWA09RQUj_*B%DA%;aZAhw8#lIw&5]@jFVYuHJM^iVg,5+=Y+hm7rp:bC?h1kXTdjw::Af:Q#B,/w+752^^cGK#e~
s6s5e(r%S$]i6%aIz;?Kp7KM)bV5s*Wy*kry$cV>0%pX&xsjHmrn2/+in8M4qYdLz$A:BT%PA)DI6p*GDP98VbD@nJ#,#.xO6&CQiY6H[d4(~3_)04S@9%r
48ZoG,:Lf(?)/EE4;7JHPf+=e+B*oiqfnS6cHOgXa^N:MX#bPH#j=z#QptXOR~BQttEhD)<A[J/i7%ox1ObL(Kk5>8Bl:.vm12F1h=LV_=.m4/?RM4@zw,)
CpeIEdDzi850lwT|z%n9=!*4!%7Cy+sB$>CnjDW5|5y!ble5I%_?htq9G7JBz]AkaP0@11dNBXQpG3t6ft48[zg)6N|7a^)0;[Q:?X==]5Eu&I:3D7W~0gF
5NRhw?H@SRJo?c%pu=.k,jYQzDMPpl3yJc<o/Uf||u|+qjvqu*H%lSD)]lTr/CQXx7!W9GMfqgK4%3v6I8A!s![Vyifg_&)f0fS.fK5Hqgd1zjZw;)a+U>G
y)4VXd[51V6kdc!<UuzO+Qr&otYM|Xj9dP/_@_ITFx[Qjc+6g)$a|#c#ZOfo=xO,w(|vhz)2+*D/~F^*2)Z0K3wvDw@jAe=kG=8;meN)tV8j.hL&8l^kuYs
TrISCK*[ibi5SSfT,#6Ed7d~l;lk3&oXAk3Y!bG*)>eX|te=m<@o]>j^aY512kiLYQN,bK/qT#|TDLVjZ30Mlyh;>V3FT9$/QaFZ/(0F@Bi^ht#HM,<Hq_z
1]M_9Fe_^18LX4=1f+Ix.5iC?Chs65(?)4pwuxLXTBjN?vY~><W$iL&_g%tKua5vM$Y>HN3#MY;Hi0x[aM?j/0zWOJ#gbrcr0JAl:TS~9iaO3B=evIJI6tC
PZX[)e^?lS+IY,e#v>De%Wg.DniBy~$Un)ZPDUW]+wt3UJ_(r7G!$Jvy$:7^ElG9[<N;6/eYN]M7#Fk~z<)0rVMQ9UaFR9e2Fz[4OSL@A#kiKD:+3Nk]s$d
UOh>9@Z.3y)IG5lG@QDsi^jS|1)[v0^P*)@G<OMEFlTuDk5I(iwl9Q7ZXG|hVI?EGEvWv^5u0TUS=P.r!OudStF6MIWhJO7sCXQJBJzS6f!rKKN80s2=0x
t&]7p@XC2af>I82CU+],~]tOIZE6LqW1jNTms.[+b)LpkLC%:%lL2~YkJp1jNn^mFWt,6tRsX5#dKcQU2=#Oht*e?f.v+bxb#D|h6H^bcZi|H5vAGfxPJ
w>)xZxbGknM78;pZ>Y?GC#wJR2oh>U>hzPQ]:OPu9roIVehZh3i7Q.T)g;3sl2f2?mNfXGZrHwZLo<U!g0]&ede.<_h;bEbg/[+x/YSq1(;Z6CSI),<Z_,h
c[Awm9@cmZkn>=@R0q.M;PDjz&Lf82mo$(<FMNlE5J0Fd.2Z(2xNxLie[NWfi>u~?a10GHg:L0&MJK<)kp7Y.^kJ&yiDbg<HGD$B69f,WclVLpbGDP70M3^
WrQ%n|Mz+Yv)d~PqJPG35<^[E342d$E%~/4cz@_nw7x7rm@ec&=Ja600bi7%KGu]!A_$lDXc=q;u+VV2dkx,v,GA7EHBEAQO#40wTRkbj^q[8Uk^XIIJ&ES
yYf!FJ3p~S;A+sR;3?TnVHl:;O~HvhWaV]U,eLkf~hXirNbd$+&gur,iVMBjj!t325X$FeF)%G(9aeH!]MOaEd[?zP(g+5KQLM$0ls;50w1D3WdDiXp6BN4
NO/=,p*+nfJl_8H&?tOMwDn9r8>STCq>2r.Sh9Ea,+O8z3JJ4^e~!oaA5YN8_1Hr(gVwOT|@z7bq$*7N![rrVE.#vo|7QhpRzZe>z_KC2RGZ(%1[#GqJq/N
lI6PXBQebKDwpQ?aJ/?=nI+<G406N7Bj8XKc~aL^0ggwtWXh!,FH5kf$$B>#?zPmt(^$BERk+Kg<K[2OOmp:1r^~3[x9>VYvqprf5Gk5Rnr0MEtNL76<X_V
dEVD;eNn+gzaqsB$@zG2Nev8_(9Kx!3oFnT+sgKKf7[NdL(!~PJmpGxJBQ9>MDI;&.Kn9H^m.y:u&uoJHC%dicK:Z;B^T=~n@Tn73)09:0y%5qX42;eILcq
oRO55)OjdGs)c2okAF)=rhBPd>$x3kW>U=Ro%kbLv]|i6O+Ti;^Xp$lcj8|wnJdoft7NN^5aVmN^tg~bq(n@u,[jJsWr=j8g(?:Y2>QS+^[!G!1|JbbRR2
4/F;61<E?%b^h6wQa@OtcVs>i~WibE/G~|R^:_js.oYA:skHoH(hqOEiu:l9%yd.2~LYHxM0HqnftYpP&=VQLSrv^:u6a]J3f(Lfe~+z<dt|;Gf)y><uUI
i#qxP5)w#sqzx=U0f>pGP[ai$=6W)Yhpkd!+Am#Y/.Y(]xQbNKi@#DItG>:]y/#WP1DyhL)Yc3Oh^3W%pYYU$AWsmu9#SI2iW(X14(1$6eH@Qphu?(y,*OW
ZKr1eyc_RYY%pl7J,~i>o?O5DkZ0(5Wwe$fsW>8y:jT0ikskeNY8^Tp]762z6]ct$,A;[D!pJ<.(<lw7~t&[8<CYS#T?XQ@~|1&Z36V6IQEn*oT@)#srZRA
lGf7L?X8n+,i)zj_JraJBKj:C^RA)0dl=LM78X7HB]h1~h_:hA~!_u2%wrB1nc[eSE#_ZHLm5fFVH4d9fDoy.hzvQnf;k7?Q#t5Acn#y6Eea9~@gv]QUjlH
RTdAITdBbmzC,+Em;z6F|Zj(5uOL.GPnF5.oP!Xz7)>M_qHrMC%w7ZBA*trJI|uogfw.hz,V.&M%V0Dsq8mkg0h0(HHF7mq_tzHH~wp)4Yac3z)J8BMQ~3V
ap?@.u[jt,Ql&[)cchV./IXYZEuCFnMiEKFXaBu89C/2yWk)#;8(t_mND^oT=VZ)9~P.3P=?@[1FD&RstW]gX+W4.S0%_Eg+^|UaY9mf45j^q7D1kgLy
u?.;Mc$VpW$[t1B<k/16Wy;E>L=k*sv3aotigOTMpE5=L=PZz!o36#5)TxtKA58V=^Q;s|L80RPvH+K.mn~A,>L]b]U0,ou.>$Q)Y9d63s4S0c]<]G^qNr,
Z|nEvjxh=Fm:=NIX4a@%8MZdV[FG(VrtRQQvSxfStWFh5e&3x(GyuJR@;ppC/vsCp9e1dLuRk>vj&7ihbi]9:V8E>_N^:v.9Qn3:I?5P6130F8IU8_QHO*t
IFJNOyY;KKd5>]A#~fgO;(P.4W2]|FGJgdemFFlz&4p[~N9^w)Qmx96sU(lH.)q.&r$KHQ+kQEQ!xkXRSDF>Q[oWp+q5P=mJsXIrrN*Z~QyZ@gO9Bg%Ny2
A?[rc93Pu8_+g%>%<K2HQ$bn1<C&IU5*|(H&G+%gpl<hWW~wDyNU]fB$uViiW+^;MAsF_fu%F7sa(vvVeG$kQ*Es*Z3hd~![;D,!1Iuz<)=$c$AgV^^/x%>
a<Lg/iV^Go]>kgD7FL*i?1r)ge5g1PBbqi>7E.AEzV+rH2ub@R>k^g^whBMc=^zpXp;65][>b)k>3t8LZqm!Bhg33JT&M<?]M[x:Fv*Nx4zld.pzR0t0A0
x&s<I|NLSwPpuo1+B/Z,T)/&|txrgt0e2UI]FpHn_%fn!,8DY0riJYp_loM9I$^R6s#yFh;8Twu:[Qoif$/vQ+VZP+LW^;!_Du0=^M?yV$sR[8)[+/u(&2o
SsxjvU5*$B?@gZ_<;Mpcn)_JYupWbwp5WfRFg9Xe~?,Jw013jNB+@7Hao@<ri>Hdl@kYkvpU5qT@>J+:ux(Y:x=$(I?FECDHd2ULix6Vur@YB>%7u6Tt&N
Z&Jq)Fy_$9ZuE:OWY*wnz|RUr~BJ5RDTHP]%BSqbY9pQ%irb#<?itIoSA)a(=P,VHp&KSe/)Q7EVlq$GN]enl5EW#^:Gz?LW;rn<OCQd3l3!]xbwy>8sk+l
Tr!CmWKX^l(j;TP]HDqY/4#%Nb7kVVMQD;+kqrdTeM9~E(LkV&~Ba;cuRf!GZ#k%a(PjX3TZIQyjO>rLo/KQfSQ,E<SxAAfG?fOP~Y;LzJowa1oLhtFN<?i
0,;B1fhq;dF0LSsH$4i7np_^]^~5f[uvD^:aNfT~$9ADx+S>JgJJ>@paTjc[2S%9Ap;Os%u4?Hu_xL+|sukr/&%h>P!>Ahe[lR7qpzKL!+DXYI]DP1H[JM4
xEhz([oR:py?!Nb^VA11G?(AY^Rb8,gqGT_|7Sh&S8HV7?*?+5D[F>7_DiN><pcu;R*6|ZV_9DOmBC_xn*gxU@G%_UrKYDg04Xk:8fHjjl=&9MmqmK1cW2B
8.S2=1+lQ]t$<Sq)Vc:@dSDcRT,n+V45D3w+3?EFclOeq#G,T<e3f~v|f;=b&o7PU**~[+5CKDZ9Up1dGYyrVsg+6Wn^^z|b1W3vDZWHyX(%4phCZzw+vn
m=M|&%a%:]F;K]c[?zN3Yaxc@5^58w0<Y5@~>Njqpho>.gLM:o;us&C%55HBd7r9vm&t$9pOm0yyoXQ(GDz9gwl>2C,c|nXzyEwR8~:E2t%)a:2H6s#6&oM
vbON(]r_WyyAd;M!#^v1N63AM&O4+$]a~[>N,vJ|reRcUg.Z@!Y_QU_A8,LXqtIGt2$avVJZ%01e!YcRoj,H~N|w|cj#<#b!qs<zoZ,cg7w~b(U9c%zY>&n
p=8sC]7hhwv;|=)H<A0K0PEHyxAJ.,WT?*5ka6hfoBV|:KD(fa@9=<@m:+ikSg$,2#yH3z;9^CD@RF)g$K9F?4ZN319PR:K%4J?aJgDMcI>p,iIR|tl4I,T
Rob]meaWH5Fz*,p:LCj,7g1$D^1sL<GvrCuD^hkrcZEHzGCSb/r7;X=Z1Fv8OKO/1tYErglkf@V~WHiR<l@>)PnX(sw.n3O&R<EJFBYcjZ5gzT~(!CsdqY^
eQ=Z7h4))H|Mmfa)&6d05svwdiF!(5zI#O?xIu#vVWIHfecm5i/#s~!_zocLV;y5WhOutKeG<ohcOHLmC.YJ%;XYiX@?eL/Si=2|<%+l30zg|pgr#M<(s=4
X[xE%6XTor?<ebu8mZxma$DD^$acj#wDz^U)ua^$=w>oG.M*)uzNblHzSV:~7/G@Eo*(P9f&&L_7ZfcK|sj!(zY=x>]od_9oVp;tnNpl?gJ0AngszpLlPrc
v^.(ZOtl==_0ZL,3nME7A[1NY5E@*|6GKKEyAuCOsv&J5W;@%N=+nZXWe%p$rn/ch6J[Nq~|^74PC+F7BWFc9oPYnsW%JYj%r#uo$GL9!tYgniW9C45fq:S
odm:n1zu;ny:UM%b^!*@_n,zZi^3Q(nBwr4*liwz9?3w]vz]skf:my2U0E9SgyctM8J?/72n|.@HSIPlb_vb^3h/3;,q*!vW#??V!y[evU%qE;##l1s~=T4
A&e5jN07G:SK7Gg?RL]g5q15|VU_+!%O4>wJSoke|@g?k7hd@ggSC|58.f%qTq$u3/3QG#gN8c3XH1ZJ~cOi0ACe)<7)^uZT,ptRt5~NKX?O3A#IwrS#+Y
o.lB!W;)J40WnLMQ<vnq6?bC8vPsvZ<NHi1DpII0Ql1VZf5(x4/8_s?o$wIovrgYT2xW$t;fVJHh@4~C4[97V2SIVEfT?s5ln4Av6MV#]E6!Gu?/ss)1
c/.,N]vk,_9c*TX65+g+6p)SxHpattT70zqaw$hnoJ|l/KmX!C^)?UD^(1vnBrQF|6yik$=m;D$csipkKCl0eYvy:gZin.F%_Ea9Eu;put)vd<YZvQNRpK:
3g7Z.QRruT>*W6BUBX@zWS#3zJU~M3)3MeRRaka~k)vpdnYJa/8]W)ko3&;K:fvQQLf*zWmIU6>hQC:J*$id(=0XdR@|*qsaCjx0n%XDen?@:4iod&kW4<?
qUQ1=%3S^?<~j3?@U~67z(Rj;/;Y2ED^>A[LFm3,Z+cuq$~op>gDhO]Csq>Bn#K4#_WAlWpkmYRXF=ASwvDR!@1p68WjnObHJF0GD8f[svvNfs_PTlf|wXL
yI01Bi>#%/3t<x4z#~MP$/;Mx4fF#[]j8G8=#5ql=3n+S+,WMp[Du|d||0V79M|oTZ4e=&K2)A#eviE76MpYRvUZ!X%O*??FnovpO@.5Ia$z@/]pW1_!Xw.
uph1cex80z6C&%eIaTNfM*;Vk,xR!>=KJ;x4BL)z$c1j0Y#^6PhQ3.%h6GEW2Px5o0u=O$6,M!R5Z5mN~Je!3r*67qZaR!T.h:Od[eRK_U:gk1$@=N98>Ks
4SNO]VwoxHN,nV0zOA.hN,T~LecZ[!%W5BS)]N]crw3DG4*VNdrBTY~j40l9u:LZ9e9k]Gogd_jl<._9!2g(S4~sB6x#t*h|qrlW)RM4!51t$ir8jVB!mg
t<FX3lor/U0C_f#5NPVggDv!_+W[62I%nn3p6lm>mV@.[Z(#llP!+9n^AY|35<|JAVju?hP:v2R;s!(tpd&42>4MG]$NGVnCIz<25x:l5(tjqF_@icfuxpz
Cdqz.95usE#puOw/S5HWy5,sH~?,ig^qp,Uz=@]ZhYcLr1.]blzP4>+aXW)l<r:iKJh^bpu*Wmgh[!hCj:y@4F^H<3M/9XEo8Dbg6l?u)Ry#6QZUKBdb<dm
f~]fZ1lDmY+5ZVfX2$4BdUX!,w5sr%]7mnm_,&/10j&RlCu02*~*CnEGhk[BMKR.B@QbekTXWB0Qy3iz]#8gF02@CmTfmN]F9y_YiHFZ4vYzK|4IN/[iokY
JRtJ?Xc7:Q3r^T/>r.>/5Gr_i46XIqz6W3Fz]vgqXBMsGCLS@W)dR&H%M7B|d%$)fNKrD0faDYsxlT93yD?NeAJkM~3G/3H=dtBIOz$0uEz;X>M@xoNpH|:
XaA8rtLe^V&<T!a<6AHkyz]x+^?>^;n!gcvsjee0WIf8/zs$lg)hlgKnh?/)kH0P]!XX]b&/1d=~4F6>!YO)i+V?<.<Wl]jg_zB/%pB%w9NwQ57]~mg,7mS
jcJdHaB*zj#Gr0vWavL_&(,z<+HE.7Z_>7o<eF<8rN.R%:7r_Zp%!IBCs*fp4#G+Vr2]yLpx40J%4EgAbj<pST8bj/mJ4j1t3%jKKikW,h;_d)ECEhob4]i
lN**/[z>IB3^_p2.=aLe,Y8r^Y6a]]~5C2U?w.l4a:y9/zU(!0;]oi[7#@q[((4!l899>qr^c_C.@RdqR;$tL+WXbmgR3|&&P2Q9^=30MAN[X?<f>KhSOJ
i%_f5DQTdf@7cqh%d)J[49)8osj@C07=]&sEDtu<~(oO,v@9hMTvrM.GD:^hmWJ~]@.WYr8xM?h+Brc@yPZGr=Y)rUgX:%rwgG:4CF.ngmP/PTxmqM!ot[^
3]3JL1WLhg5/rkLuuyvcnr[MrmL9(i/(v)btUU8B2%/K>,<1nTuC>$9lTBPg~*.tH_,&HS9X%4pBgY)D^kyJi1~@(1l|p3eN+S3n]2Pw$D0hLGFjz+#./T,
l;mHhGCs_(oU(YE+;wV<Sl<jdG~lh7EV>EPeOUs_!YsxQNX3$|P.u+[5i^Lgb[&Bm%%m;U#jq6~t*,DApyF=&DS=*9@K_EoRS_QHgvd/&a22>*A1i|V74Sk
A;$Y@79ad837yFsS578#*b>*/&5%b!1t=o(_>Pj0tahg[W2o:[w(NaEBBf)e*lGrp(#o20IgaI3wAMvDmATIDICL[d%/CrnRWm=+%~.dSyKso/y,@LOi.M2
O%8.p+J7CF>wA6m88&|wjel+7A&b_!i8>#)lEV$!:K4*~MK8n<qtsr_OiL2|;=bjt6f3.Yz61r8L=X6Zx^5PU.xy4:U,=jYs4vr[Mj.l7[3UlJPXRLYaBMM
H2x<>V?sdgnGJ/KppElu=UO=~YsQo0Kg]4_erv3fludOnAL.ux?#^@!|HGN@2oeJ6YK6k^L.EeFhBrc2)7]kf|.Kn@l^tlaP=.c:r,CFMYAwkS5)1Fl+L=/
L8fSQ)wl^D$,rh4)o#O(5iAGCSBDD?nwY>is]a(3n@.>qy?<8#LO&d=R0R4l3f~qvd5<v^e)[<..y59SbVHy_:8Ufl&Bnw9?C/v^F8lVV6vtSjV%vNXlQ<
y]cx*t0udnq~i~1wqlQyn5J^=MN%*i=A37)IN|V5o2)2X@n)K]~$xsASt,LQTztW/Re!TIub,a;yFF:|sFC0<cz=2OEU*X=IrRPP0*M.eN9f:BYCYxK&x!A
HBfB]r:3a6D8KK1]eGE>(g&rUO1:eLoJw+JB59+aub!j%Hm]v/4L<l6Z<mO;5O((UX6eO?,ynIbf2oY=~N#0BjQu)iCTfBFl8!nK>ndl7c#SVr5;Q790W1u
jZJToU3c=7KQ|_)f2aInrtfQ;bOe7I!;rWYVigu<hEyPJ|U/+O.9<L[gG(vg?!*bT3mp(1r:(zEu2rl5U?@l!=?mrU@J^1$Tp3P4M|/b)V|J2dU;BCI6y5m
WCOYvAKJj,p=F+<%tWpv<dvabs54_r<xFZFYj;iV6cS^&JF7x+>S95im_$jgL[2]McBvx+[NCF<Am0)dUm6%9tBCCu3A5]s[VD=rFG$ue]kSu3_JL]MQuQ<
CU8g:2_(kdr]Jf/?<A]nUmM(t)rE;oYO)qtv!w4dg08Rj4PFmc6sSV.xh+[k4eYm>xGnA;~CioFoL?VE#oftsZCuUmF%|nfPP<QA6ScH<d3xb=i^wGH_@
b#.>f?(l1p!4>h)Ud:Qt74f&W(::qzlp_RIrf<<,7[_ra0S~(21G:y#(ch>UmjX21<DF_<*^g$EE>!Wibc5=1,(]5rPwNJ765cGrhe:UCz%[M|&c:M~_/g<
WWL/$!|w.SY~c4O~u.62=OuvcoYOIyt%C*zF&l.[/X^4%(J_Ir2^<0|M!ccG#4L!iPfdYj1~LHoDC+j3*@$b]vOA,TTA715rQcf4[[Qy>ZUztkwV;jZE)gp
cx+YMX=Lo>(K2:=4nNPWX4tRciflHJ!CSO0zd?tP1Q7c5bht_/gfQC>H+aw/;p#U6&vnzq<9SE4>P2]HQ)I[(BsTs:?;,#0*6Er(co)EP*Q<@Q*PggxNkvK
V[q9Mgpy$1D&^61<IC[]pP$.kKOD;k%Hi(lB!7pr1:|x61|BXhG&gUy[odji)S%R&?=vh<shcC^eydi)v~RkLI_fD$%xr|g4|v:rXBmMS[]0?T??P6s=wpa
snx)z2&Q6vV2Rn,W+5Azts(0_(#[~*Soc,hcB!q^Jz&4eUJA[XRo=GLl4N/3LkMw?MEzT!GqN,@y!$?js%*<5XCR<!28s]JRyjnsy91@pD[]5*h_#4|xYAq
SsV?!&i_0(KZB*Xx*9Y^3>Joy47I2.>NnA4^QKi0Xnea,^G$8s,mO[S&zJsmO08vTifj9OhWAn~F.>[CiUsaQ!VsZ2E6<O5[ru#_%c~!ds@PYB>ZqV=>mdp
zywr]=((^*&W*nVzEkJUWE&IH8b28bMb+z.z~D*j)KqPwjEUvY7?1rLmPe45+3O%A_muJ<>Jf#Vr?S.5eqW%1lyY6Cy^^r:g]HsR3C>=$44,++Q_o0*jNpL
ew.:.RIo;Hi3s#6%yaRZI:|bjpTQLXidY7nBS[XT@n,r3(xzO#*h8a[T)R1!VO0c%x;]$ImKO==kpizN@4URqh3YR>yLK4?gIm*Q.jy@+&YRXDIFR$;vgN
4[Vrv3h&h$PGuPUus<NZG!xHwZof(vtW)_c>JqRpf^+dnFoR^4a_N$[:i#usW]qb#InUBQYniHp<_Z4BGR&>)F@joFw9*@UZ>Q$H>>@;~k>q3Pa]3GJCSRh
tF+rBrF8HhtsURALN*/DEwsH4L[$IL#&0a[Opc9RyHWg1~@y:F(iOmlRYxA@ky5tY7f(_y5jD>7(KYsOtA6c~[pzkJ+y3hed&%kVFcNCQQ2DO7;_#E+7>=c
sDavbl4%[Zwy&GwW,D?wa~J[6Tj:W),YAJ~~RyhL;eu4Z=Buox(=adynT!GapibUA0ZP1k@+n*Tw/%_hj?[S(s8JQ2i)^zer<[L$d1,y$9O2jXILwGxr%||
HvB;x|D6zT<d!+g(fSw(Kq2%g&?RtnAN<4q#?:d[BJlAF1tF.hI)fLy^!vYH_<ZN7AClH1s/Q34D)s;Iq9tQdXI*M~e:/&a,FvKY2o^!jauygrt2=mFmn>V
7V(&V>FdX]b;b?Y&/F+lyA0o9JJ>F%xwU%J*Sf=0+PMsvQH>rR.e;heaJs(4Oo@pk#(0U!E^~>s^_BuWhb;s(ZfWfa)BXl;(//(r!X4A_Yf#;FDCE_8^B/
l;@SZ*Xs|e]Gem1i]vrv4xH:jxY%Ou>;(jMQ4(Sl[,Cj<N1G5n0?*I+hgSP.T$~P.dj(d3BkZPy;Tx,03ofwK=H;?21k/4ti$CMjPI]x1ez;A8f#:,m8]Pn
h)#<o7d^9i1;0dg1c;Pu!~i!Ks!(X#2gEu>We=BMZkZ&BgT1tD=8erCeWc,:NrGU4ivB4UdyLv?yBVrBXlP,H2O2_$[~*jZu(Z)X;u0Z#.yn02Cr0SZ$ZEo
5gGn6tI1;3EQpyeZ1j=tJEg1&3n782eY~[PSYW1^~H^hQQRp^+w5&Kd~9:Kc@bZ<^pPlJf<Mvnim2fNK8WsPNg?hzQY4;#?dOhh8vCMo54Aoy^[02a_Dh!
N+EVc/PqBzdPC5*|qGJ/%RuS8Nv/%(W.)MP[&!XVRPz>mFyld~z8]1KekI^zz+pC3aPNVxh6a8(2U5)Tt@RuL[/(6<7@s#Tb@P:=ohN1#$y7IkhB2fwu:xf
pWJDKIi%Top[A7g6wb]~&?vU)C~12/11mS%RK/(@JoHX%U.L]~xs%Z5s)k0Ys_Z[asgwc2[H$1[[1rR/xlYv1$C+y$AK<6gu2r>siMS<.k>lW*W><l&;XNN
e2f*d^QnxK)6lg^65xP]4OG~mgN?K?:zlm.3e5bIsq#F1,d5e*V^j(pdbGL7X*u@CkIE50>[%U04hjpoq(Gy>Dn@KnC;UIW2Dl.0f3_Z%DRJl[Gv|7Xbaj?
WNz>3<tDJF&00):E+$m4?*!L2dER@kc3m[VWs0)9!w|K5BpMi$yKliklDH_&UwXh$my@e)TwnKQ|+6NS@KI3>vRYMcwZ7SKlw6~Dzev_FBmFH57[Ls,|%+X
Wp^daCUgYxh,pJy4gdYM@D_LXEI=anc#o!2ssBGAVdbR=U4/O92r>qnU7=a&m%PgQsE_MTTNe^lwg_3NQRMkKRHjY_C|!*1wC#_CbjE6auqH>S:;VTLEt0[
6~y7;,,N>Ac_yUc|@@Tpw(;80&14CdD1>]S9dp@i4x|Oi~knl6g<9F*_Mh1c[$A80OButNU3%zhBsA9Q!3x1M8^.vg>K]5wICXYjQqRF/XQuJ4[pn#/v
v,,!t@<G5C7A/n9TI^V#idKWAX00Guf^~&$IDh1zDQe*MyL(:iYa+Y@NeYx[*Q]1aD)JZuz1ijFacrgn9?LpqcJ1IqCn*IC&A[V>S7*miq>ec~I/NLL^lGg
UBU/SpZ|Ya<Z:ZtW9ah/l*QVWLT:)ZVR_skbsTUUCs7sK4f$=T<2;D8z^a>mp.d@cy6i;Q#rm#dr@BF?jO&B+|J/Yy(zjN?aiid:,_Dwexl)^$I,<21:!E9
9mIQj$<&|uE.YUPx+49gb^TG_zjx~^DYEg2,Kz(+a@~_$/1&i]>)|F(HX8_rKDEuP$/tme@|stvj&cND*~UQvacw?6ET.FXK%80QcLZ!vB~d_a[<^pFoo#,
V4*Yrvse|@_Qxu$SF,~f;i,X(NtI!GKF|6FED1siof8m1ri@R5he$fSV>IK;/wRZ<s&wF)sU:LEXL3<h<x7U@<5j7y8+EO)qJB*RIHck8&CD]Y7L9!h4;T
A$wBx~Sw+]W,sZi.;*mX0V^JOhct+bq:ZvcJw[N<M>3!1GlRD)cZmK=>Y^Oo?7F_J|^9u~QRPa&axQw3aRt6V(9rgDPB^<Hq3O.jg4nw[x[N:dx(Vta&Mbs
I7O)m:,IZ<Egymn92o2SoU_#EBM.C$RKY(!LhwJ10E4b0E+V.#C/Gnx@ZvP/G3.ctf@ir#jVGBi)uMBXJ+&KmVFYA1_V53>lS2?M2xuh)Z~F$<Pd(+P$KU5
i>7O~B,$Dvo3S%F>/TGD7c+toIafF!KmvgxG*RF:+KQ9gJB20gpFRukLv[i=jCpA_+.a?Fv7m8TjdvR/TqkC^ll&,gxVQI77i+%V[Y3^9|Aclp4dOE1Zx
y>(T(:no=uj2%+9!:mq>On&uE.a3g@FG4$gw+2w50mpM>cv6s=NT(pxun(35s3s??hlKL##g^OA4&OFcF^o$VF<4[D%Rh@XykQp^j2heS]x4n6*mAY.<)if
BlM5f,(%rNs_o5j;CQBchB1G/YK[A$1u;,>0IaKjxy@:zlj0[o<)8X=qR;zVAQG12g>R8*VBB.&;fsAwyKIE&YlM<b#H.OT)6TYjfZlG5ET/xr@OwUwlw[|
M/O/hxlGUlM/@:z;CPXgvkXoJ?uzu/P4:7B~?tAKXaI%bg0bS9CnuCi]Ku_?a@i]?[DOQ0RDVTRFZnpb>2*px<iW&uH9Z3j6KeO6PhZ_XhUM*i2J!*o^dW)
pRM:i/qI[;/lyf#@9V7*s&s!LrTi/>Q5L=j($WIZQ<M;5lCCp;>/(^yQwKk<:YoVWB=^VZ2p4~MiAj7r^UR&6&3KVDM([Y?n$#tU7(0LhA?,SmUC,L+UE/V
zrA2H|sfWL8;?,J7M+(xZSaQj/vb3:D|a~D%>eXGF:erR|TI$_I8)1lQLve<*9fU[~5W7N$YRZF)E4dfnYA87Wo@Wyh$*Ec3GL$~.PIw9[4qrGX:H&Tq/.V
P~+I||RZr9p)m<2lw+zPZmdPRRDX/QTBL]kEB2wc4ryAR;U@p?HTDs0dwgN#Qd:RkBMK?aWrIGh7_Kt?%J0VHJ5e,J5^!.s1jXJ6=yfdR[=(7LvT7u@FC3N
OUEWAPYcXXvh]nW4=F>9xooTPf&Ns<ou9fO0qZ1wg/v3Uf>)mNed7$%F1_Z^08P^9of=qa9_Pb0TsDXmq%R|t_g;dbmGYs%,~j=53tvHOWZsIa(|5|?!SPr
O5/?Jzm]+8HJ217/>aP;5^[ng)&;LhBzFudC/or;&hhy:&j)+n9nFAdL6Mac+wX[&S[]nw@|TZcNO~@aL_oYzMl7y^PHK77uwVFz=incYCY9$a#T4s@S^%U
7!MkSMW]*C3>w5;AyC@nD&Wz$2St(_P0VoyA:dL*VJ,%Y(:NI>W0$THDHK+UhXd0seMc0uUL<FOX%kGj(a(NgFq@btNu(Dp54;@5gWQ>glL/<f2vBL?qW1|
HzIkgS|Z.NKSYW@&k<c[E_Uc9[4J;<3,#%/LzK|J9<X(fw)CYJ)!V*w]GLzZtl#bRLyn.G9kI1P7ZW%rlymD6#1;Nvt;j;jG2W2spF;AcN?)LF>e+F?Q6fd
5XNff*#53get/F|^0c)TvUSr@;qc2Nj)_WctZnEJKp^.DY=kZUCy=EQo6H:nRO/B&zaYqwFiP3dLxkjR<46IUB4M7mPw.npYL^|SN;4h9|w6CNKajDaNomM
aYPR[)r4Coe^H39m9]RED~^dnsDpFY)!CKFmzCl/6iy%(4RoT804b1F87e|A?tX5%XGu6]?/<r<9,i<CMao(%f;IS3Zs5TZy)kIJXM?&5|wlSL.k;nluh0]
aKBVTRv|uHl5nbUWZ(al0ADPpeW9iu<1;NF!%;~9VSuP4kfS|r=0WpSe~4Orf%bkt=M8^$H=jJH#kXbAre%GD:)m9t=uMH2g>!Mm[bpISUOzo$7eJ(u2Zs
5>[>G4xn(Fm5^[iiR3nu>*H[=dU8@KI7]aJX3>n|b$icr~^bmjo/LTfH]jYeB;xHv>nFR.#ntTSOsTd;OdJ*cz8qIY]PEBRZVMk)a6?=d,*teH4@&=X=pBn
o_Xht%UD[TmwL5/iTB#ERf=zBnumYnpo~9P:~>1Tlxf~|YP8xYYJgLm)~cSFNYfR|2$!]+e?.C!ik6uTjr*4q|nZbC9N^#_PTpUnyy7aL0mO8_G_pAJK+^
s&aXO@Nnnq$ZcLt5lxWu@gEO$l+DbMi].B+udk5m[wZOuY1u]S([GUVecQ^[D/xdayl$,k(#bq4CWQIwSwMdwqNk<!zv,bv[6<U54/ZQ%9UIV2VJ)fi%cT
r$hj*nvyeOu.;;4tO@RQl;G_K^>^svz*qYi7<x)cQR>rnyA*sKzUQPk(=OJS~9G,Do^_J>:g_fKRwqy>6m>U?~fkJ%*aBNmmZ54o^!>STmh>ONlznBraT|^
ph_7FFV[)k%Fqt0iTlXG4;h0E6w*]G^Di*Z_Bb3)l4Sj]HqRAZ~iy)TN7TwEppx44,6,|/0DN[oNPd>]&%^joQ/T9xYuKpR.M*dXJ*sf&O5erunp3Xh*ko
k=/uKV>u$|t|zbQ@QKbiA.FXUCYhqyTjIQ%Gg5!tgEGFUv5yp+OFD*Nf7T+Ya*;TRGW?rNwg|OvLFI&hW=IJ1ca[tBSjd:]L1wVIKdBtPA;J;8ohR2p=;La
ksp%e[$=k$Sk+1i(8dRDtdjL11H.?k~@Lvq4r9yC8]).R.1_:j]NTj^Ktqn7LLWFN7$yZzuOg7tWT%+Ph:he4CTRMe1S+X1jzT8/6a&|V3.#UXuZco*2Y5q
yr2($;vfJytgaY*fj8Lzmjy7dLPi;Yj,/FCQDSA8eSVKqz((.UnPhnXk+<mD<O670A%1688?XV2|65,@x.<k[SxL_A1D4jP/fZewm2@PEW/5XG/+YCZ2Bl
G>%oY)^7h<+5k8l7#q[~6M|>hlwlwT<QYte|b63(JR~MUMCRny_j(#lm?k0#m=|7++PDvNVgur8Ei(B):Vxk>0N0&5h>7!A?Zm<_3~bhq5rl&ywojqQrf[
4!i9~TXAR^AL((>/TpH?c!h3R^rl=g3>R+5:oCYSRp_g[h#fSq5;Fl;WJf%hPzc7WpQPT3RUHtmQ<(ksQ8,:!&l9B92WcnV)CA6GApZB<(z4B2qMsrj,<k%
3$7E!O<D1XRwdm&C.=P[k6[+L=YH9S=^!BAP&*+x1K&FrjTOFnWd_ne)^MPs;y>p&J(C74A$]FA<p^N)rmIZ46y>gA:a7e6n|%bg6xm6|6^mmKsEt4.v7FH
P/Poo9)s##G[6/_%t!yQ.LS5V!bWDET^w<gPi:ZCZ3>2mi?i=y%ZCYDk&KqefB3pR!k~th>%BGf#dB&qv|S>Sitm=<UlW!6_?%nW_Moq=l?K@x~w7vlp,[M
ocAgqDZmVP4x1@rj(kXP:rURN=ZJJ>U$oCkjf1*nf&W0ZulPdx?U=,yRv/U,b!Nw*F5TV<p#g[#^<%%t)7t4>Q;4Mb8EZzu;djK3AoJvL)p72XqC=Q<FL2!
QxtJQsICS^.va_!oT4^@AH+Ijc,]q%Mx2.*;/]RbzU!ow<mknT!4QDq56we>^$SXk:sV=Gcs#wO&vNNc9B*qh<|QBIE0XZu###(m7f3<tic,akbuGvs@s.:
f>?]jp!viB.+<2Z^dAv8Taz&=xB7t4xM[:iEbF;5:r]P9:n/o)5@:8^|R~#FC:VvhIiz1k[RPcemKHLNynf^[q~1y@~&gR5?@g#)sZ[?fj/$E)D*|!:;bAz
a/pXGr;(y14z,eu9nQ;aNc$5/l*^*;b|h%~ohsy|fIq;z$;p?*uoQhvr(a7x8@ygof9TqHU6PWhsv[R)4XTU/ubOeYybGU4*zL>28Y=SJvQEh6XxgcQ(WY
7(JZfSXLdEjXU]*d|ikv%g]*<Kmslr!PjANL6o/Y%Cg$IT_ha(omI|w5UzRcv$^=buW0&u9VOE1NBJ?ka/<@>9Sf#Assfq(^V|+MOIjZ8XZPL@mDCz,O0S)
rky2~dzzF3|eF$_~H^o=Ox/fMjrtYG]?)x)acU1cn+/7DfuuK~@2S+dgP+;?xkB>q(4$ymKR#M|Hz%ol&uvk@/:eHL%j&v6qlYL*s(]t(Q[NMmf>yf9)kzj
D*@DNzhq0iO[5&L%azNfnWP+:JaxM=,#P9.t9,GiWQlP,d.<m/5F,R6!~n2C1B2buzH;#hkQKiWm%hiL*JIQvikY7F&v>H4:UUe~RNNotZ=*YsLt11HUNb)
lkz2$;x&@!^*NQo0blJS?]u@nV6)AESx4j=.u$L:|nR6?w>Fx0/]>+5dsSVm+Ih5x.Hg52vLI_._5%gZG>lUzJl0&ep[.m/K[^l8H|0BJpXd:15[!adnf+7
yK;sK]2ZW|L_KAMq_wbyQr:eTRoP:a=.Ljs@3&QVp#(#KznrZ6>cl&j6tD?DP_Sr1wN.A?6$X%KN54+gF;C~A9FLyW7vM;dBB,RQ8y6u0KErpX;RTrFco0
6%v+1]5I;1hp6CpseAph&NG2vhZYw?:yj$eN.v|~g>JIZj*^z&Yq=MmG1GrIuvVa0$i^oITV[=&vbYGlY97R^m,#P$]vR5QoWQeV=baf/_I;F|OLW$~64/I
K4k,8Yb9q]gWVloHB7Qce6&kNI7HTZjxl/.1=nU;k!#?P7>mj*xb*+vTsPmiaP33zo/FK1sXiM@<6H2z![!.YX;6!9H~_LCtD5<k,AHb15Tg4h=Q_FRYcO[
pDLW,ITxSXJ8=qT/*^zkTTh^I<MtA[G39)YpGzgEEFtmr%,KI]Cf)XItO~:W+/3/l#,jUOr+;YcR?hgj%K:7wmX/kV#|e5.U6q_*]Xc!$w(N~7olo48s|M
A#3252YMwalJO%GG5eX;49bF3KbM^+^vSylk#mtZu8GLJcYo@4u;REf]~=SeVwYx?M*k+^d3gtHIp26D3K(_KN.7~SNM2>M]FWx[BtIGw|cgV$@PGy:B#jZ
7ki#]9<f9RpS]]M2V@HA%&p.R4#u5~&7Trt/bt5<nZcKNB@MonlE:ju~$g,$#<HY,t#MlO$btej8QU%_UPmTo|OT5XmBJ>p#21q;)]aG9U*A*B3Oxv!mr[t
6D1aG,c#@k*=%5$e;dz5mqMnk+sa/Ia??gBAE=!Vm[?q/++/E=DT;Dv4?4WfsV#QlWXaK^CdjySTYmz<L,1l#H_>r_,5mnP[A6X^n(&*T#]p+QDiv/]f:93
ZyFFPJN5s9_;F_k7fmLxLMZ8naG8@)#tDk8K.4pW<:z&P>a+&Om^KAJx<I/uHzl)sphod6v4W)od3NM.W$y([NX$&f&hJC,+lx.cVhW87zYq|g9);xI%U5F
K&G2N;T?B]P9U]d)~5=a1FM^.LA25Z1Q/Z:1lvCUmtFZ#yvTNS1hSJ4Fo8;;QE)7qpR[h.LfVXbP7vTA3s<:]Hq/cWqM0xTu;D^mn*3c[62c8!r[WXF&U5=
kd$6DY2djdrm6RF4W<6>__R%fVep@2pBt~kQUBVSNDE^T5&Ge]BB6F?m<1McU*WIxl?q~&E@Gi&,_J]EyhDB<)XvV(_%#EmkrVDoV@&FFsKm6m4RpiV6_F!
b@xa*gZ#/;Drg8PjyAN2sHB(Vf^)g2J@tgpQ2aTa6hZ2[+.:npLfhciu+JJtL9U>BAcKn.s<6[uKyN^]pbWOT*,|fpsx/)BP)i+~dDo3$5pMOu21E938l(Z
V/LNwqtTwy8mIhjDo*:9)iIFavztyxcCG<l/)3vG>6F?xFd7[SDuAyyp#bw1wMDVFp>eI#3eKC]4#)QS7W*9|xJbo:o1UlOF:Zm,OD%x0yX~[i*g3>mGK+k
RlVt:~/_|0*!VM:c:0zWwP$Z65s*0)fXIg(~((Kx|G0o9[oLB^x^TrYfGhgU$uzs7mzL[q^V<myB[AaM^QMCveil5z$drY+4PGl1OpE*yU.9P[_EKfS8kwc
Lfm3?W?Mq1VF9pf.*GQLvbFee;YyuzjTXpJ.z!x?oGX#<DH:j#x*j4c19AFXXevJf@NAiQZMCI9o^rWO](p.mcc$@$n=HPg_#56HO~/.4rJ)W?&~%bbL*I3
sE>_*v&|n5QWFzmW3_K:9*iD]_Sjw8%HCAZG^EN9$f_C6wF6C#$;2jRby$I~,~8mG|D]=ZZ#Cf_Ik2$%3+Zx9x*Ta$Cw[4aT%lo#fxB7A@WW|VgOIW$ik29
4^Rg^CZ3>v8VSBgg:p>SP=dcGHq8CBHy4YH.Q$KGWhXKT:jzn|ig(xYFS7P($pD.DdbvuhGt/q].D]kHe:H0Rd+mi$v8[@ZW8iK*DNd8*u]@!8~).(LBq;$
4c^Y$I&MpWx5^p;Abn]ejD77b/V(c_664/:~$z0]lf=slioIC,M*58e*qYWXK>*T)Eq>R4h@ej@l_VJ=itv6y[tw]wJDpu(UXlP)oGz;eT.~T*56(YizEwa
T4N4i$Y<OLE0hfvs3EOK:7zrj)mfSI&]tYXk.q/J_>pn2gBhoc<ULt]OV<=B0G/..A3[[I^E1*lYSki)u(QtQ$2ZT^H~eIho<B.MU*1(.e:2]HuV<(KXsb[
gr~;e;_5|@g=3a++=S;r!go/?whlyq,j6Un$c+B.BQRuWnWZY5x~zU4[OPUE!muJfhC?cbhNj1VPxxCxHHN9exU~Wc_?5(IiXQ4^a_X#4w!]r+w;yx!tY@E
inXGR.MB_Va_tuYI|)/.bEOq1sf:cFzta3p*t.Za<h*NnUc[lH?#gqM5SGj(;$gT.4^2ZvYpDx_skjnP9!_Oo[ZxSNdw3Q@j|l4$sXy5aOFbDGZ=3YztM=z
y&I^WW0HFGe_(=n/F7>(CK/;l#trJPLC!uIXA=Oo)w<ZLkqEbaX^jGs=b5oV2le_0tXc^G$~+%;Jq8i,[MyTy/=YkmqOI!wUd8*bNnVBgf047MDljc;thA~
j3%7[JpQQ_Xr(3vZh$s1P!(*Fy(xGwra4@08[JBCT68A1?d(HXBE;z]8]i7FwiT7obC2!xKQno|aC!D(gbOk!XNMR4C?^s$gLtgF:~e@p%RiURP$1dT].y8
LcTc^4qx$NETlrOgj+_%qx:divSSJGR/G,TMz3|CF:W_9wsMWw5U!4bub*)2d7exi+<WxAEzMZX0UNA.fwhk@Pd|^e[.S5dP^?$H^B,#:x;&~MtLnE<XeDT
6t&(9;HupSmlGmxmr++.IcUs|wK@SThS45AgT,#@/MFbS(>$#[_h[o5:7$@RCA9>4?+e@CU*M@Zu[McmNfmXahA?gDaSp|@D|=O8]pt2Xc)!P3Gg7d6Z1>L
Y;G:$S3NoIK>5/n)@#pnqx,^khrO1J#<?evATXdMBo!?Y+[hY>6*>C(>is*v]s0V6(8a5@.rXK85znvQI1%/C@B<TYik:&EcJ)g7N~qD;Nr?]Vcf$Z9Y
5*@@(]Ypngv/RA13I=(Jmk??.6_JSJdNi^~MjCH<46Xi;t*,>cSX]ptpr9eMymq>P!L2_0w0/~eM0)[>F!!Lw%Q)2_Co?%.eF9=t%Ju%oh1i#KP|tmOhee)
2U#o+pxp*,jc6.H%B#dTs5aw=nLB*7@_ls3%z3;~?js6~D1<I$Q91(TNVq]?<%?#pp0Z<;w(NTPDf1x3P;EfS5KiQ9_B>|7X[iQ(97apPs<Av8g8pE#qE
1#)L*p0,<F=,Gi<M/7gauPYFFc)(lp?Dkw/byXnuN[ggJnULb4vWN=TpgoBrjpY;V],~,uyb>^b_zkXaG+eZt6[7=ln?||omP1:H6%,[VdhP1wPwm+E+?@X
HRDNf<D0QJZgqOz56e[W5HuyyL3uq.)^^Mr+eavk30olz=,kJ4K@bSlVb;dhZ~7BRJM7RK>bIJL]RWc/pQPpDd~wCPL@%)kgf$.pWnc|*&)NG.8798h@<Ei
t5LozvWmBc^@T,]%R7UEhtn8A2mtQPk*PNChl*hkoXEPWlB*eLUX!@fbS:Pp@?0s#SSLi0uDVSTKp%&WzoP92%pgt~V_Yj*&NtvbJWW]Ux|ya7myzwfiCvp
Sq:ajcAt?glSzxiH^pI2e<CC6Te|[K.Z^0&w1*H*:^JKXps?>/Ha6fF>7.bvtV5(A)4=fh!(IJ]?m@~rK(sJR^w+3RzP]_cN]L>.m7P!1s&?ru%z6;8$NdS
YL6@gT>zF+yZ1k[j,?+k::W,m]tx)QM~Pzz%:W[63mWKek6p!&0]bd73s&uT[+#$7S1US6C1AjY.X(/0xMPyl=7SFRzh$Rx:W3*9sr?Pq,YII|bZXNJ;>W^
3i*Mg~djK&$wb2/O<Tegn6Bq$|6YAv#_bF&[NdbMHy~?f^$W0A<W&l<<EFQ/5!i]0Mo<pUf)l#upWs]pE!c|74fubV~Uf:k#47f]*^cZM^QMkGHp~Xxo)7R
k_Yn]3fGPiNP3k)Bcsh3(%lPN4kFM(pu7rwe^qTo)O#Em3_b#%R=w>HGcovZE^VrZ.M2MN+Z:JPS?%4+W[Nu|GfJX4|49Sh+4gIW*kOl11/jS|Md=F!dR=>
GKW[CK;)9Z?;]PXywPwo+/89_AGGyB7.t4UN3s>UA5#eNn^=/!R1]PXw0r1/>M*ETdjL|M$q>MOn8zS5(YuPe6^#K$./4lY9s%H?/JMta2ePImE,nTLoo)1
gx;VP@9NxWuB56M2VD5X<bp0nKZ)e0$yjsOi#F(Wp$4Bm17Bs%L#V[vaT%r|(AamQGpz@(2Ad;3~/@rgXs6N~cc@/fV|:KK0,;>FElNO>RxWa3]jfN2N0!d
lKsyc4WFlD0V:Pz1s=0MMN!NngqHw65Rh2~_k)MY$tyAUqRKVpd5u%Y/CObtx#Urjg~:6erpjvEX]MwbgbD!zJka=KnCwd)w2Vg]GN7&BZKBQ)pIkKcGfH#
ToH+^OKS#~QioQ|7^sE2h9S%EX&&h+7)@nMlMAUJIKI$0/[cc&$O;=ix#TEbb?I5b8|UH>ByTT5[eqzMU&t^Q~pZ5G2Q#qV$PPa|*7+0:J8T(oM//k|!@V6
j8n+fg&:Eop[ce@d!i)??0zwdJ=4[Bzur@.Y;g#/DIY[X[<fg7_Bth;86bBGla>18,Kqt<ya4TfE1[3Y~rfE18#L$OkF#yB9(s0aTOpr>d:P>HAqD%7zMeH
nb,K/*<||AgLs_,vJqG#[LnQc>(msW]5e>]#l/Z$!^d5cDpJ&Y@;1Gmm_x@qUWlKf_WZmhz/V;f@t%U!F|YFzGYsuK!Czj:ksdi(2(sz_>*uv9ikdJbj)Hb
T2Y5WZ:xCpSjE@X~^el_p6cLJFJKRB:qZ~n8<5<2+bP#Ox~^KbuVs<mFG0UA~34emjM2ERiAr[M0fdF.l2X3ta=!hc2mWW5,|_ePs[<u#ZE0E!H+<nX^pFK
ME<w3;1N>wKISRE9[_bxOx]k5dy+*sRWAA:@E5D3~,As+Ue]i|irU:GsXoRavCb>m2Wlc5]KV8UuPs4HzjsS8XsK5O!bUyA#]<E|oM1ms~fB?1(v2q.m5tv
kVJ4a0UXS9aZ;$ok19uBGB9g+4_mgUr>:BzunPIlKXd]VA6j93gPs2v*VbQb<9wiG3BRwp</yf5,!#G0JU|iy*UJwbx+IK%q6&LG=*S#c#HE]?&Kgc1A>XA
G;vODcWnp*VFSR@sD#vNif^HIMk/VM7r1XS]v&,a||#oDKZ49IL;/%)aWOMgoQAZ1@8qAYP?|!H(HuH@_QCX<zIm$n6R|Do9_=gl]8DY9ULiN#a:r]c%471
EM5pdf5|z><$vg8_Vl>~iZ[u+|1Jx!cxxJJ^@&lC]XX]w<m]bVdddir+^4u*Wh?HeKFHCDqpfexU~?i>7l4$jjG#X6$)s]VM?/rG~&92N!cZ*^vS:<?#gv,
eDfd#A4E#~bA]vz)1gYJk0p?jsm$96!vx~koMnb|Ge[lbc$+m=?bPt%3FwnTC/Fkp,E8p:nM0[*>|O3MtRz]lW#vy5(Qnn(tLFwd&|&?/1TDn2Lh~ExI]+
P|=DP|L62wa2Gztg1x;z2DeH>P]<]_u?92sKDp[9!zO<y9H3p!h#i=.t26Xf*<5?imr3c#Q(.Ttx%~[qzDLe0No&1|v<o&_@Ds?jMe]x_+b</OvT6YJA4,8
beKho5vPVei_WT454|hR@,n;i,w~xZDUm;yK+>UzbPwroSKspEo6c)r0!i(2Icu]tvZo$]j),h*Y&nUp~t?+tz/w,rYhFw41QRhP%>z;wP2+s]nB+t<=9]2
Z2!FyH)S*7@zO&4v#O~DkRjU|5*G|2OA5k!&oqxIS2SKm[:>TRk#]X9a[D+Ze:v*&t~NbYu%V/pH+/Sn=<G.SiN5oLlMG_xK)<3>H0,:nH=u4>lVNI8/2)X
Bj5K*Sk2IDa60T6EY|$:YRHz;]VY^a8_M&QH]0C(D[c&YxP?sPyi[4O[92I6=?sR?sY^1i2QbVQYU(jimW0>ePgvMtxK$Z%K/+.T%eL5NDsQUxppC0e2jJ
B!6W8+scp,*.qXCedsX[(VuW@WCy@ANg_(CHaBl~yVlMC*EQYD^7nmV2!A_vHj5e(,ZMG|URugx%O_FGZbTpv^q5Dr,QTW5uav!Iu6;4(awrN)VU>K?ijrT
NC3zET,DwA4Zf+tF/GHEWVU<5UqT@~J?b3&J_Rc#3GrhO>kNdn;OfMr;b5wsACTuqbl!1nV1JuUGj|xIC>u_slktQqe/rS]&=9yLDn*(BP(lr%_RE>n8We2
tZVMK_*XR0opG~:~=b]hExwZ.Pb&UQksC!Go)55yq.Lph*a:NKZ[CMl=T46i^?#LqD<k]%ICtQJ1VM5KCE4ABFMfQo#oGs.lgB6%P&+0$~<htK2;JM>MC~e
ddblFBx<_[&i;d.Txuu>G$6[iw1s6,1@6LgWOQ;nfyI%R22][R&Tc299a7^bFwr*a;rtWS7_4%@l.Qxv4lWmwc)yzS=ppYvrhwOE3N_Bcy@zOH&zET|_0s
X<Ga/d$|93W7t)HL~Gm/FZBgRO/=;2N3jCQ<+wuWOxC@Y?F+?$n581a%)Oc1i|?mir|t?m|7s2SrXDg#mPpTpXIVP/hD1]*xL|[m)!yWi6QgkNQ!=lov@
t$/zd#@L2UAlcu2nC%_O3g$+1X9vnu6W5!TQGeC!(C2e)iu.sAT!1AxlX~kE9%n71Hs,kE8jK/o?c0kQIXo~_^qto&d30o2]@nqS.|3n#4X?qnTTLR3k
U][#+)oQx789|rg<je#f(ek,,]aW?9H0JO/5:nLdX+mz1O+[+ip>:^F$t^/nU591m&G8QStd*Xx)~)Ox:tmF6^$fNT46F2J1&rfuRYR3a%!5$C^fQS3/mFK
Ys$*47drb89(]BOT],ilf>(yRf0zaj~l3hkLmAv).Pcl8)^KE(;EWws&.$l6o%>Hc&e;c.3<F8.W[JN.23Nu1ciH:h[u0NE;5+ywLH)8cQUWC6%C0~e!i|!
hQ</P@Z9wQV;[,%wFI.w/i0LxlP7a/3e5meYUT>]z6/j<(V.%?2zV]tbJZa+>djO&oS?NY2Xk0V:(z0mq[[G3#z[Z9[Qa~nZAShJ.dtLAY&PCw([y(4q$FW
Y@L:MAlGkVV#9~fm1ppiht$T?7xsIwu&nHs|oVxX75gb@wR,v,l)[x7#jLG)K[;^Z3YByTa[sh%WK#b.^XyNB8^o/QJpkQcfU0aM$/Q2#gb]tH|8rt.BmQv
WK;FACtJC+;5j!A</|NEOD3Uwr9P|vCG$h/t].sGfYVp6a!jRT9uvio@hCy1nu!Bqy[B%YzfE/)^cKsPrI*ig%yi@jP/A_+yk%$*ipu2kfWgSc~cy&N~QG
O+DCw/u*/xsME$T|%&=Vi4NtPEuVjYayN$Cb$yc_>2&%w/!*^k4$~.U~Av+hAZHu?HS]px9n_v6JEH(!eDdloHE^Lzg9S&)C,13eVLNmt()Q=&J>50]*mJv
e[^zf.qrx9biQOmIMa(7T[^O%T@aph:|$(jbfan^o_~,=~mIPHEh13%zRm]_ZZBf48jXe!C!p7PJpK>+!>9>#y1^F/>]?TrMrPb%2Pp)m.oT#iUMnj|$qNY
m^tb>XkEITY|oI*fo1VX(FE9EhO%#1C^|fK;MS#anBTUCZUMDqWFopU:k1fnV/#s5)x6:8SAN?Bp2)KuXu4%~Q#Uy]u<X$6h0h]pg>IJ7wE=5Ot9v.pTmz?
1Ri%:55qsfIcy/:+gS=**dyb~5k#h/)DIkYdnY3a1IdWz((eDWkx>U^@0:W3<^6XWZNfTVTW@QW2QN1@CO.L|MWse%hEyZPUiy0+E?_+FtoIL341gi5lrVY
TcG1t(pxFIs.Yx2s)XZeI=he[]JamyPkxpR[AJ]Z6yC)|QLVz_kOAO>[WEs8dIcRUAM)xb.@SUm/D%XK3?jnd2ixT]3~|@Y)>4z~CeJZkdHEzQWq4iFZg8y
2WeS8%psTsLj:3R:7&K>zChLWE)(nW9_FA+7<LPqZ0/&m|1$x2n%Gae:~@V7$R4%MMMhG&7t5exM4l=%[Gb^8sfU99A7^?;;@TGFfh$2K[:aFtVp7].&1l
m|!Mjg4Sab;r1Cm4RsOZ7+11D3^GHVMy7n57#DX%l0f%eQ8f,>gwW4##b!$E;1qe:?z?$fT<|63SZyT:uW<X>^3[$nf/ecnY4SR_Lg6%0pbQtZ[UmN28MB6
ufX%C?IuCt%p8|7~MqSOUf/hRH11<~GZ7,*eGYXGSlGFTme&psZ?N?NfMyvV>zs$sdb@MhmRYy_)1q1%j$>,25~4)BVOE=a4=9,/0?O74vku9KopgP3d?Na
s8y_qOO[.u,UktN+YlpplI[B[Yl70+H3eHE]3<%|nH~N~+UqI@CB|&:/YMjlKm@vNP.F*&>z1>./0&kV;_L4.Cf%CcyG~:|,H9d(JE?#DgS7sD7K|NcP1X]
m^^m_uB~%E/dx6w<zyd6Ka1=HeMl@5sXz>,e_Cf?#F<C_[VtG!#=:s44m8cr;y)v)lV=00N8h;xB^Q+c+vx#bbo2SGnUZF/VE[H!=l5Bj7P.8,V&goB7_
b(,gw:<WPakz~JmGv@TFGqJd%:b]m<[~9IgpZOhUxT(+pZh<Hw3fJ&le0=ML?0]3:_IwYoe*LS=[F4ol~2V2?79aFOST.M3FcU#Sq]vB7N:0C3QbZuKpP+0
GufB#^X>9s(|@Sel?H:[*>u4/(e+?xh*fkW.BtoyrPA<JdYW^.zH5Vm0D]I)FBq0>3BB0j@0LooNHoA30LfGLQXVj2JZ%b![vfgq+=yA+Phc.^IULev6>J8
He4*B8OeeXIk##i$8fO,R>@^&l78!#Zq|?&IVc|bV_NH!;ZIrl)a3dyQDU,q@GCFxr6F.S?5<0No[yAs@>36rG>ln[qrG|bw%kmd)L(|)S0z]n9h52Ey*a:
9n)p5[[0=nCeZ6gzV|aUsNa5qN^asQN$v1>AN(%bJ3w&%4Ck5s98RoRCeQtoVOfDLfy.(qjaTHu|vR6gY4W:V>;+#k$+l|rxX/(0gDS?Vrf]kn#;>5#UyO[
zT>#92Rpa[].EGq:c0m~@.B^1!hu,@gNz4=d&DAyLf1DsSyr4sh[g8Es3u,S2caF4L<Z,Bo7h,VW[IEw/;*XL(PE5_ZQ~A7.oNe4JfK,^cg^.W$6nLkXq~f
Fcl=P,F9GF^/1vHZtJyhc]/$@Hh9aDQ#?*V&]3yMC!GZ?:0c&<(<LqUa|X1>C)vbA:_4o=it8Ugl>jtK=Gvi,F8^[SC!JsC.Wg![^Tpy+IQv6A+Y$h;(W
T/~Lj~IE3WIW:M9GA_XRn$HY^dH,+,L_GyDJ(oQH=Ux!WutlG4m3c4Oc;aVv42WNS?vq&]#blvm[#R)/l0X?$9j%5w(0aVvyPhg]Va7MagZ4;02^_e~wwb
H(YR^hNiQp+IPw=G3m07.H7~k2WI%9tky*w@I@VF_AG@K:r_Edj4i$>J#B>Gp/Fh!6%mc]yr4@1s~#E4NDoS.&Haa4o8X6WdN?7b]Jf/b)2fdIH?a*qNn
B#)vM4V)]W?Z0q&mlpJCYQOmSVOCZ6r(6p<9R!u*<vx$_@TLB3k!6oI~o$dm8jH&St+Po$k3f8.1Lk8bD>+Z]UwoYe~@4N4N8Fz7gmAlvjYr95|X0:gWM
g#@&8/:5We6<WEyVY#psa~QI24j7JHD9GEK,tORqn=21o%MK0F!MM1IZY()F>OT>G/8,B9o,v%Jf@D/j8)(C/i,=A)5]gA)#ZbRnT!&uu]IYu$c:$ut3w=
v%=CJA0P2:et[|Uj)N8c:106,FFRVV.:?+>r/~tL~KtF]+G7ScS/Fxq^3a4$%pm]s%5*&L.br?]B8XrBrgC>JZ<ZCLBmPJ1nZa4AvR|bsR52kD>;1,m^^nH
Y7qfk96!8yyV#b=K[,w7rn>vJlgi!,^bX3SGg;cpv=#_7o!rC5AE|#WzVI[Q,Z0:4cqwd^n[Eu5n?LhumDSkVuy5iUwaxS+.jj^c+O&|.o4/1sX2eKS!<|W
Hz2yK|1W0GXP)fOPBu,44CMO6DHqNR|6M4sn4A1##/%8YShD!9UNDXD=V)*IkXcf6:<)|y%txdS8)j~=hGKy(68r;B3^@81lk27J]uqDk0H4FKB!p>(f4*a
U(ZJ/<cS^w=#R[ENp)Mosve085:F<:L$W].lRh^5MS@rJhcWpR,KXrYz4LO.hL+JD+Yf[V;^G#60tRf[7oA0NiZ]&Hx&:=o>A_Z,5&1tCb+VFZfgR1Vw.;f
w,31l%J6v*df8KD#F@r%k=_IK|p!4zT/[zRr9RtFv2+>BbSdhzXbul0[66p5V!MmulTO13lz3BH!>>TN]_D^|vsO*::::XN7/9Q7rc1efZOfWH7yp//cIZ;
cIL<Ip9(K7b9R8]8l@.?8[5jY|!l|FjSdYXq$l?q9gWE%(68&$6Hb=zD7H7z4vf>!NHJB8oCQt~.gsvZBqrj*QJHNP%Q,]u[b)M7WzlFHCl7UDY*TFv19yR
0q;^ytYBA3ZiFKZ+J$0gyiPM83KuzsQnr4S_P3]azBKYi4jMxOViS/RX4*yl|H:&xY5]I]9^9g#%Gpvxp|L<z~BoOuEy!B=0fwNbHeW16Io25@Dq6Yi]=@_
VR6sM5g/]Y7spZ[IQ8d9J_tI!7ihoboIDvoDv&E)S|q7^]3w*il,efq,LA/Ux;/jD|v+?|FFlA^ef[~ir7CMY#6pH_@jw[P9.>rkXB12vrSv5mNgM_Kv.
M](xqKbuX>M3qkLR9]sh>!4f5j~]$z.8Gg7NLo&JQ=9^S<+H$tB8ju[ZXM3Dza&la6O,140^2V!roE[]g^3v3gvHL(?d/Gb@_U|4m8qI51ON~B(^z<o?
1(~<+m]+y81ENlO?3d[N;CB?22T?p[oCxv+6VXB_hcD%:8#VpAH5cmLWBf/$?a9MW]y~8OT^Vo.y[[QZawgZ()eLRYy~c.GNH<<w#g%/U/60^$HVr1%7+J
l|UY&g]fq/TW$vFj0ldq7^%WG.s(gpJZv?K=/jcddL7s01<@24eyfakrjw],meM<SRhh]qCbqT)O%@kF9k#O03/9$|Ud^SZi_Khj/D[KwsfUr).i=ar3Mcj
x)1|S$SpW0FpB=MF<LQlpuR2icJ~pgg&W$l&cgJjfsA1%z.uaT1S;=%Z+d2r8FOPFe@g~~MnBu3v?/=8;;>+x.G3;9S@SlqL9*#u+1GgtU,)n4bC]Dm$/mO
C#JH|p^6ox0,N|0b]))Ak^p*QljMB%~]r3Q9^ph8X5oJwxLdOX^/b5;h(G!sRV/CW:]^EiQ)!Qr0oe+K7:eSR?!hPB^~<)R1(Mq%DA.N)82$(A[!m@f.N^r
Q>0A^h54Z6vS0XX~Eb3tSg>N)iNO4_?10WvhT*@Si_IFo^sebbIj11wnGvI=WmiUhh#4LhU=~smtwU6VoBr*2aDX:zSQ^^ot1W/_?VD3s^%63|H1@A*Il3A
feOT7f:iz^+ie;Zk)3ELrZKst_Ior_hnkc<2c]i<0n?&oPQ3?ch<;WAv#57:]/wbAz5Wkm>7OX^s)y[+=:if$cJ[9<oXOviQtj;VG#,@*C[z7#oS.UK1*+^
EIK/)8G3Lh,cscZu;Sk9R%~Xt#=&ne8UBhnU~]G|Ieja9B),+vXq5=v:.^t!SLSM6DbaRfEX#Jc8fjpEy)649>aj!t^fdE[94:LxUSy2%LdB;&,450/FTTt
g3cWdIiSQ.1eWo?WxE=8~H+DbNSxK2Jj;9+Qh0g/w*/+=uK!E(?Y;FczixrvuzZ17?sjv2#v]|y;0*]iAYO];7y1$%I%?]teK~OwLB^#Kk[.aS<Fb)CDU^W
tfChS$vFZ5i[w~GLYC/H_s!JAL6.Scxzc875;OpU%ulrD$vYCwYtl1j9k:U;l)XEoj@|0FdgPXdv|]C7~qo/>x5SpqRHKa]P?QuP:FzQ~.6PCS~LCSk5g;
Q$k@Ch]!G9!J=rD.s@Rl>]j_~@OQk)SRtj~@lI/hSK#]setq%G6Zngz#[Squ,B>uK*r<A^%_t7fw)*yc=p5T1!y$.&?mpRy])]V4xzTr(DTG|RZ]mvqi=L*
kmi#B>Xuw:IzqM+Cv;MTrG>2N,&cpt<*9=~mhIxcwY;)1#|OZn6g7_%;$18;.2MRvXJ!;&~<R#f:vMe(vm2vU^#6;]sIDWm=^/p+%n4TlQ4iT7li!f1
N@|?>cBht4EBq+ASHkC?v^s9$:9qsqO#gVO#%7O@3;~ENycbF~kl^Fn=0FXlXH;Q8wesqh^(*9plN.mLV:^X5&wPrWcX8<oO$l?CbdBxW.S%5Cp*M(r6iA9
LT0ypj+V+7uz2PI+SCLy=bnb[Y2Jie]#L3IfCFQPBp)PxZ,nx9ir~o:lz7h<&$NZi.RTFHfECw>E08E~=dktU9F<Y^t8<D:S2g7&Ls]oav47MgBTk2dWb5r
GC%kNKe:Q9!O=2MK^dI6X<RW3p5eQie+#q&ErI_@Z;[&IdS!^p5gY:F1q!M9l|3e=!*TOR.U$0.E)0QytJHS!k:0bRz5nG]jmYG<u;9Mq*]9DqxAJ,^,/(
W~X8m)afqIpy)8,%qF2d;uHMa7y#gqu9o4k$xCfxM7#X!]e:GKP<rk!aQejG2]Ef|^/|8zo2^X$[Gj.,l&NdW8_Bh/VXR|T9NMcWvwJ~s~u1K9yg*fWoB&e
Kp~S+[a5rM[QvJU_:.iHf;9Bri)2m3X5f7V2i|[7;6<=hL,2mP,crhDm3%v14nuwZ95XY;8F29*WN^w=([hHhlGF!_o[jvn_h[;3M##(bk6^Tk>uzonhS++
3&_3|U>j]E3!cQ|4A*iJDlp@MeW?8q:v(vk3Kf[nJu4i$slH6V$LTl@1BEzO49WM+2_aajIrvET70T~D,F5(L=)01M2C$<|#aIaH^Wskov#8_VkSJ7nIxv0
XR>/~wyj6NY.b9c3_0#Jf~%j(2ba3b#P!H=f,$TIN:~ih2tKQ)hp@oo_v;?w0t+*s_%[Z2z;BM%QSwLNr+R!u^Urr]u(0TL(YbJplPdc?$Z4xt,2?([$osc
4q?|]^JCRIxvpNvx5FLDuWUIK!;UW:YfwB1ukLYgXUIC?]n9n1veI/Jn[Kt;we%26inA=qW+]9<;,)pXVK=fURY<2Zdz8ergQ2=^V_DTb#7QxZ)%n~_Doo1
k1XS/E5jp>u~8sgckgj$=X|+w%@h&iQcag,6_v^fzde[Vsw7z/zp*B5KavR#qvg&Koa@ha$b7_:_A<5aVeX@9p63Mw<GH4Cf>!x#ZbI^8WB$alQc@P|su
2=.|.fRS#MfBWJh_Ym_4gtZL[,;Q/uHOHMX34Nb>sq$BVT!AUdzy:~?*K$_B0;3ADcPh2)#N;HMF/@UkvxLX/oD8<yhf&mAUT>Hp2sM6I8=fYDK<B_b++VV
sDvgY~Yhn7olFFlYk%v<&arB+P>Os7nn_L~EW[4fTD.Vn&>F,+$CQ%sJGuOpJ.+v6P6xp6e]ria7ukL~i.Fz;!n_;9SEDP9Z5IgwL%Ry)s$$WMXnC0JyK=M
qcsfegIy,vbuRfq*|@]A[d=9:WaVJ:#W9c&qOH1p7Tzo&Zfx9=&?HCt8ggespz[KjvPqINqrST]Y~/11EGnlN,nmSRd4t_OKG+PBug5xS%A;p!ax#4jnEK
T,<@Y@PO:jJif&0V%Gj%@d%1<xVi+)Au~^dy%*7r=rg;RIw>Xxu7o!n?M3rXaI$E&qp09iVAT&%TU6?hY!@)4coi;KxH;=>H$Q_H<mUV(>dG6fXHX_7M~w,
5!HDi&QX3Qv8M<<TSm7r?B(4$Y2H?T%Gsek]VHPoHqHX369^)(.3ywl/(&0;T8~/R+i0=xK;k#s~GzY!0.PQzgDdZWMf~%,Hbd+MeFB@Oz4glwOYtp8lT%^
qZr&1^Fy!?Ts>Y>,043(pQoFDl:iwUvK%2D/9DXG0L/1P@OYVB|Z15:neHenG(H+ht.V73~o)90en?cjco5|=eaqq(Ansv~gMx&[^QE=$K!]$Y9rbtdWHgU
Frokzf]o;@u<nHJ9]2?80,)!HNMQCtTnQ;qK$N4?lZ!98s]0:VD&.a8u*k:WPnTN,$.QKoqycD0wXaMtm*]E[tMEAL~|~S#l7V0/zv:J5oZEVKZpjw*$)CL
rpvU,R]^fUOiWdM&o=;*mq!bw<s+V*Yl*IB%K^/8_P;r(k>4GV80~:c$BM~iVje<66YxjV6@l1]fB1ysxCcLbR6n)|t$N,h?m:z8fGpz^NiEqiqQhyYQ
j$@:*yOtAQbCPJlYT2m21N36z!(gW?fX0ume~O[N^Z_i/EhS!A12>T=1gWhMI8D~Q,!+I#n8az.Mf+C<T!Jm:KiZ(Ot5+5,hO~xXpJe^?y8nBeyNi@s>7w#
WVw,]J(6+h%SV!:u0if86Yu6K1EQ@waiw.5oZm<mBcZ54BCzx]@7!Bq#Twh7cvRgLgf_mT8z1CDM?Kn(b%OIV)]+~[BtJQhu=O&X|KFdfwNE1P8Kx,B
s/+|#Ud&T?#F>e)bUA+z_OF#cpUyf[a&_3Vncl;SR^Y]^%K6oc9(LXqP2qN)&~Vr)@cW*^hbRS(@wFqi0],WKPpvT2VAiLhoEL_nm)VuS=eKM]2)WS<eek+
wq]^G?F.HS3cU.x@6A?ntw~?>xINBX[],h2]itC?RCn!V3eOP9l.%$%<zJ]6^$78l%ovX%Gi);xM5ssIi|_lN<>xR#foQW._9hCc[4Cu4:]:yJt8|ln$^7p
n:zQbSHtt;|lpSs_=li$v*A9gcuQyE&+Mn=?EJR08fvFM.#L2NCuCl<N*CF%aYtzfVd;0%9UW37kXo0U9Z]~3.is)l%25ImJ!58t%+8OJYkTax5DOK81de
L,i.nfB5VgfD/gfXsf]0?5t~f!/1z:WbG3,N]2Kz(7V7sVdOXKe?<6JE?GRXI<Mw%8NcV2<8iokAo_K~HQqjLd;(A(WfmLGk5y,Q8kohhQZstZ4kFGSs:6k
b/~p&HODxjwpp(w^%rg1th10NNoU&0)V>Xo:YB_#:iB6|xZ+_eV!1IF*1BIEA?g8q*g)kcga<V+mm?tE;|Cs!2;f_N2Z&AWe~D6NQmbbgZxOIpepDp7<mnw
yt&xz@VnVtg8dq|,s)lDRX6x4%uW5[QQ0?IRlidsHjw/iQ9Ui^V>4i@#[[,9=2H[BXAQD&,QqUbWY&3^D_j$5_U^4!JipJYnvz1X1T&6_>?,EsF/=+IgoyS
5%_=uwD+w$C22t+wr$Kw^S,#pst<(xcEm!O|k@nw~1Qmnj>m~%^t4ksM|2Zc7G)6cMwSd:[vFpsVl)UthXg0i9bAvkx=ESNfco(tlaL6:7$idE[|LNJQ[/&
L%%[_Z5%>Eg>aB.HTiC!gnVs!o,r9Q9cGh^K>|&XBzA&M*ig/:<HI6eKb~?[?e6_:jfr_4d)H$QYMxN2e,lvNA(A|D4,$nB;(Su46YywqvoG)X]XP#RM]/
w[%df/7pZsG+nR5PCx+3Rfr)FR44>aP[a.Fi*sRClxV>DHOxX4o#uNE+BmV9iJp4x8NQ[|#C/yusc[J+Rj]8!iEqFvL95NpPMAZkf*S=46uh7tfqBr0t~ZG
k&Tzc#c7%YRI?];.l+)Ba~truia?oqCqonArDH*&9/wXY@$It1f&DWw3[LL)s?=cXdptkJ7P[awpI?IS@n,ln=^@SwPV:0kv%0aKH[!dS;yg@$8)_OC@B[F
QGbiD/~+vm@,F~g1d+41LBrNO~Rqg@.(AzJZ|Oaltt!(L:642>#*HjW,&0,OW~=C5/=EIu*rbmN60OFcT=]Ff1?OS~m.l5S,IsV<4NGM)v4pLEBK/JCN%Y2
tTLX~)S7?Mn5WyO!9OVv~]CuY*Eh>Q;pXLPD?nu>*;a:SaDW[T<$0t7wQ>V*kSCjIrR]iAIAGXBWXQ|Zg#b6BS9EI9M[u^Z*||<zy,FJQ^F9|*=aPy.(XH
j)M4f!m7rVkhL0KR&+bZ9]XVkcPpEOcM4(bNR%rK7/+Cr#Zp]ASwwco[<#hG/eb)])wnVtUt)jOlzS/^5epatl6:A=RNM!0<YQ;Y[BITTS&FtKE$bM$=E?D
Jw4>sbemQ+3iAX*p:T!(<*2+v:!cs2ATE/7z]<pbkjn.69RWap48IZ!2=Q7:$5qe&J8iAEzpUt13]Z|~<P)(uHZ!h9qaPrW>rm>ob:uVMqD!95nU&s/5mTl
krlz;$nmz?F=FXt!]M%%[x?H5WTiNY>Nt#v*]u)Oe0(36H~<(C<u^9a9/YWku$nGF2z086H+[8&8kAKnWb>b^FSo1od^UucjpSZ&.#E?<W~(qzbElI_1r3!
x$6vzHb(dk62X^^6Q^FLEqQ6i,?=Aibc)CFf_qH]uw6wmD|WIC^xoct~j^EM$KnW&Woa)iFac0!|GpxBa#U4aymdib&o1D9c[tKW/k)?7|Epud~a2yXo+>
J,Fg,_7Qo6ttN)x.We&w#UtE)q.oaagN5GjKNBpdNtvLbM3zsTM*!K$?GuB7uwEK[bkmzXOaeL)Mw!:LhyoIGq7ersBU?NKlaE3K82te:C5c|s5m8@)8Q:
3+y+AKh~rVbYayY:j_&dC/a,@~b3BCtE/,ZftR3%DK,zA[C2|cf?~Xd|Xl@(0X/Qi3%!WMRj|N7qK|n,!;JKu97DFFk#gWC#]5h5m=mL?|hC%NrEnP<(<|
Z.P>fen:@kzd]yV[m.LH^9gVNnm3Hnp]aXgtzx)zoWJUfm:q<Gci*^?iq>K06*Q*;0/N25t@xy]zB6MvXu&Tw?<@@<vZg<G1~@bT4QVKeNhh#x.YR/l7E%2
q(O86QEWPwUO8#y/P=twDK?R/ZsKLS7Izp=M(m#Yu~^jzHzq]ak&nryPYhF8u.4qj4G5q>zqrTNFjZ5Q.!po@El1Vy^Lh6Sz)?y)Ayi<._oVzg^C=VY,[~(
lKsEh8U87Z5<l@B2pMPga?TB4w9tH$S1Z3VxdyhDw$|21;+mvs)FV/1:]#An::ry@W$YP/HBcrA6NNvpU)G.n*@3I7[H(*u4#Iny_!Vpk+B<&$J?c2~xJb5
FfI_ETGU#x?0d61O485/_IjWNjsiy:b;kB.$js4D,dBko|QnwfdNcYR!7u;;:E:9sRYgNnD2bm1&r4L<5hk0kVB*O>q/4,.pLc07HqcevZrbJcD15!KN$r1
TM[kPr>2S7&N*Zc?uqNpfsf[8IRa/khGMV8DTTd4iUGrv;.m#BsOdrQ1OqA?|:2+dst+z.3*6Dj&_Tbg+^ViJXD|u_zBqdV(Jpt=@X5WFYOP<#cJ>RD=j=?
i#YK2.qnqhhT6j[MbWxst)z5,j99.aMk~5+eJ#sK]78|P(mek9!$5O+i[p(V2ApqVOC/|=0U;QFI%YA2/Tf3@&7Z[n8v]0(*8o/W%cDJk3thyGi1otD~r4m
o63NBuX=;%G_9q&[(df;g0UME*igQJd_T%v)ehl;aif(mMFUYbS(AZr]Ccyp[KY8;zpZf/veTa]FW+7L(mpA1S=ySG4b.k~vEDOd90.X[+L8W@CB>x>Yb.
w~=>I:wII/B8.+]]$]JLUnRjJj+BdtqG76FQzr|J9&4$lIl/quWP#eYK2[G$uA+Q~tj<0vM5S+_~o!zT?uqRt|ouV/>Tvsc_6H<y_Zpc;/bTaOyzk=V<95#
sZCzkjI[BE$~~Hx/$.AdR?aM+75&#%4P;yc+Dyt&&tS?eSllHBFVdmLo~0w]P3II,@K2QT],iQ#wIF?B+%HtH61Iq|z?Tq7wq6<;x?JF,C4ehcWc]/;3kdY
ivQ5ElNW/r=ngNo$.Fi4+>/.wswH4;611N%Q;OW[Zm9wK<Tou<I59g)hgxGW[Ff|T4X.X^*@xt9GBGsQW1G|bTU0QA_t5ENZTf(?nr+Y@dQQ83Xp,/lMU^&
drP9:lSoKvW0J4U8q+>5M|S^)).b6w$9O&j3TP~X13]D*o<m5&]h.~983:mKDp)ckVQTGa&tqJL3]%gp/V?8~Q$7[HZIf@%2[8:>tsqXFrLZs/s3z8ESLA
C?R2n$(M]#:e#hu6R!5^t/EWml6W(?#9G*_3p?BLyM4.U.u6_Q)BV&3_lS@(>Laj@gmI=nbObw%Tz#VVNiZ$|arCchpKqB^:|&TkORM_ku7%iWUX*I+V+Q9
o=sDHW(q@jO,Z74;YsIqKdq~dlZZJf&K[OJE9|W9?tMVR>$<+%uEO;_DvGT4.017BKP6m9O.&lzv,6D/kPy(CXH1s1Ku/e(huB?zc+Ryd)t6Vio*<Q1GhqB
xQs<6f)r!M(&mgAK0#_L+v&#Pu@Q,CtMZ8M4~zBBc;|=L?Hca@Zvfka=C?)Z)*81RJaYzCb;_tI+O99w4cf];h|AWYes0S,1#xN~hyJC#u2a)aN^XSY(GvH
4;/pHPf:h%RP/Je1a^_:spb1QxF)k9d2PdzSde/ZDxx!Am0pA6W/L;thDlF~DbJ)HV!K~r@2>Y6lxaJ%Nyhw;@p8phrz;::R%WsR9(a&r,RChC)GG!TA?EO
cbG]8[q[%N[^?GwwvJm<wFdaPPz1w&63>W$h,n@Q,JprgR<f1622ug%W:@q4=[B[S_4U5l<:^ar[Te~(ZK#Z2uS0nhDV(Qg)1tW!WE*^k;UVg?9lx:jLGzI
r,)bjLiFHvW?]nPdI^eD:CE^BGTY|kdhQ$5t|r6h~t6.3V,Ehl%scnaI1vd&eR95a]6~c~Dlz^@8D#:^<7J47ok@F%qehx[jF5INK91We#P<o+F*]75F4+W
84XU~^c:NR4!?|Lb+k;Ck!<IUv8[;JZ[IMiJPHY_H._]mvvbU^HY~&iXwykVPN=0WII0Yfo5$wSRsz9=a<n6m2cDUXW8S$#XAtutK>C(=*RFOe_+qqDvVT
2>c.au@0Lwa(wP4HKU|8+<:E5PO5b!MqfYTOWOwK%u9kxzkP=CHZ:nOE8VPdjY0Rzd?zZsPxPHVkTd<9~=8sY*%Gyg%|$p&0EfhOibTy?rwhgOF8SSM7f,[
zyf$_kbf8G0pzZKb]An6mbn^c.5Ntu1OU!m?.[u!?ax!0>1wt;&WoD+jSl*O&B@>@tdTwZ7b7.KC)Rx81TT(Ii9~<_Bxa%hn0KkK2O>&l.qcZu=!T>Q:_?
x)?Ns/%F0G=S#/Nyi^:;XA=|UJ*tQx@TQMV5(2uSf$kE!;0FOzznf^yXMK4D8vHkWl~yp;h0>#UZ.Si8!KOMkOqI(ty$(8g8;vY/%d~!)9m0wAYDuCIlC?S
xBJYK;,eBhmL_sEb9Tj6nh=GdsHWpDdr5/tL3O*=/B[C+tMYFp=EOZi5x?VxMqVU)^KXdAnrC(Ohuqpv)(,%;n73(x4ZlNa,#Na:zGl?[xfIq=QMzc&TF6/
dM2<TBbFHH7z_G^Y@F*t$o*#2jY=b&GM:,]H3I~3$a$uL_6EkWRsL$Ab5n1XH>=M|#((oVC.5S),rNq@NU1zEx&Uf0/>r5tcbEqkoGN%mTK*W==.pK@R89+
sCI#5/eDvfy|GFAwI/$>4DI2+3VQ$u>R[Vnpv8K1WZSl60TU*D6.cuk];=Z^focpttpoYKK:jwy$/ZOIj>4=[1I6zP&IO)4V7Dw=3u/w+Bg=bnVj$w+&4G.
7QA#TCQbTX+.+W8A@+<tL!E<oO.XJ=seVtz/z9dX~a*Rv5|9ZGepf&yH0ZOIrbE4yZ6GPoV|8W#$J3wIIk;pvJod%6*]BA.79GmrsE0>m:xjiKC5?,$EV~=
1nWL4Ig1za[E*z^;~2+sb0riSq]F:MRi_3&q,GUt6KI5HsdCs1ftN$rkz$_(uzYgRGmA[JA^YH5K_|s^dmcs$WE1#Q8YiZZDD/;4)j1*&ME[$zOM#oS%[Z1
9Qvb&eTl#^2hk%#WjjqX(qz=:>q<@+k!E6gZCHn#)@g6Gw[~AijiCx;uQ+tW#zH8MG>2_Kh,>N|+@i!a?J^)O7DZF;l%%1oG4sCm4Otn:@l=~hLKW+UD<Sk
aqCY0U!@:AqEu9gsH,AQe(JgSoyu&@ajU^*hWa3ce;udxHp#(#SYFm@Jv,67Bz53!fj3pWk5|9@)NSHoz]qbCWuSe5n(*QFHl&5qS=sa^rGuRqd3D(EyQht
C%?_bmR@<:@6%gjr<wdT,?<A(#z@mq|[P8R9B!Z(TKco$y08z.?&^zS!4bU/BiQhP^87d,ihX.2t:%LUq=.k+.Jp/;V#UwnQ*dYY5xT8EpJnv@+dKN65Mda
pQwE.vpze|>A(uJGx@w_J#UTr6u>Iq2DD6t*>F:&h3%sO]|J+=V55dTz;=>d~/&AtGjk<^wb5kL*id_HPz_0$ik$k:xC1)ObwhWsyW5!AZ/r5]Slr0+4@vI
cqPb5IaIjJ6FF9D@EEdidbxDBKG+<2$)KWb+c$@[X)XTM,a,*G,.VzK!cI0P#lx/7jMChW@psukG@Tt>yO6+^pTCLT~p>cmbKNFPD~PBrcyh>R$s2G:|hb)
7@El:hD4b_/r/o*W*vvywVrSr#u3@;)_b&?OLbNa6KkyXr>it6xM>^mklySffC^<6p*618~=Lqws!4[%%eGY76QV9T4,/&=XD!402/0_Z(%!F)W5%G:7Hj
E@#4I;.s&5tJq>xB*ZEcTyfWegiCfkXV]E($,~EIftYXsNO@c&3X7v4WMb2C3u//?LkL>t*O7F$f=p*vp69#gBGEWFWCvsvAoAQ0h22tuORY^JG|FzDuG2
Q(5PP)fopNGjDtKOR!Rb,aqr3W]yD)5+jeicVY+cp>3k!Vn$z*?3Us*p4j=yIqNzL(ep:k=C8Jjj37^<)RNsod*M(+]P!Y:0:s_ZriqUPCIt/dwoBIB;f
8]~9Cwp/=Z7hn;.9Y/<X1(GG#&Tb]yXT=Gk2orTPJvoy*+oX27z;vH*9RbzPKw54IJsnb#Hp!eq9;8Qhc)rqan65~+5&ki*_e~d*9f74DKn1npvI5XY!Cx
d@@=/]i+y9.<i|W%sn]2(NwsOS_K8y8l?V$en&Uyke[1;*m4im,Ej?wt]j+kcYHQpT9fa.nyi~^|c$X)Qk@[VQ$NvlL2VbuBWeRv,|7|s:e$=r!@Sw3x|6+
9ewwXb?eI0YtTE4j0GphUVGlqo^1d[tRpB>p;s<K:3qS1;BIL/U6SFZVHkh!?6?tzOX|0)QiGyn%amc]r!svFkSuv6^)V,EuY]X6*1atcL%z;4pIe;jRP<4
e^+(a(Wk!Wdek*cZIh>M|mU|Nj#wG)Ulb$Y+Y$=)Nqzsn#;g3zY@UUiB&2JFQsD0nTg>7Td!l9<1O=;e@oUC|cdI4DKX|(q|r*OEa:@k==F(J3/#Y.%@g_Y
o>Ad!6gN*vsTAM[J]?$%m|PPw[dc!;%aYz3o8FLoR>:FFy>:lb$8(46l+^GSV2F;4=2Agf/n=rNg?h.)zULL2HOzH9c7<SLVU!xQyqjzndz6rU>~qy~~
T&*[SoX2T0Ojgl?Ji6u+8b/W3wZ0hZUjY$7YeQ9*yRT#+Yy|*,A^HGB)mt|^@tQ@k@(cIc1g/;1F!Jey<:cfW|q,zTU&zIliyy4RvqSQc@B<>Z%qr]F!8:
W!MkGADB7>7Gf^LlZzLAXwnYx?wo58R<Jg$Jamj/ey,(TX6_!|8%BanyGhEBsS3+a!b^.ob&#gNa0_s/FucneOme2C[&zBo5f$z]D5Hb1v/TvQx_[N?GBx
e^Z4_h(x>ITu<Jj+.x.J!9hf=q!]~sO8bZ13X,d.*%Tt5YewJq)Mw5.^&T_BPd_&CJ1zkf8.AZ=t$qD?48BmHW3_A?@db7C&q2Tae7[Tz7W(RhX*m]ty8_R
9;Fd=Xtm#)&[a5G!QBRrPMN)b=,i17&a4a2nf88i7?(BV>F3lZPR4lwH#rP~ox,DgdPX5|:VgA.2vUgjOg+~..<(mA7g(j2m2;I@IOLG/h1moE2F_.eIKv^
OR.ce)kqV(wZ<#.*l__]++LzJ5!:TBbFeVRA(|C!FV!;XO<*Tx~2R7**L=N)ps*?4Xt>uH&Gg?.*!5derbfmCe*uBX(oh=/Tg#!S+]3Z+&gy+edcV%sWw4]
CeYRIis;QjsqK?R5.C*wEOIW1t=HyNGkrAcp31T+>rB2#:9#GTR>gMiT:W|=1Y~dyrYj>.]87hhb4WhQQJ<3(?a[GI<U4*cFiOAvh~)y0<c,Y40dU>ZZ@Z8
Nq%5co%9fs63unzOp2g21Ccz<M>|GcfYT+(H2z=pap]e1Qh&lAC~u<dX8oFAx!_$<7^BX43=vlYsEfO][97?rv?z<:d~XUM%/k%(We<f&|;~qpU.;SKCgPy
I6UZTAnKq*GU=eA[QU%<Qq:sOM5q&#W^^:7=31]DCd;2r;fhkfVL=HGO##8&oI(,,[Q5&Gf[00KF#w)Sx;_fiM)WUq=(zb#Zmt:x~R9cQN^ZM&bZMo$mvy1
l3Rv4wJp=gUk3P3UGZ85D:c#2$chIE:_[L!%C$9,+fIEuL_~g@99fVz?/__cMQrq/TkG*$QCXwcG(qxp.$CzJaQ_AP0Sh=wO1GINBAZsI3e(3BX97@DH^?n
w#55u0UdT<0;Q%CYjg5x5KK,F=(?RPu)Z$8Kw^x7+_*+8iaj?~e[1GP!.sZlcGGkc;D0go9:6P6W^DnVm8#A:YG*rY>ZOJ?(5N/3PTzuiuQ:1VjI5J|5r3,
ML6P[m4*<nN@%9D?adZ<Cw|u|;|MNUb:H16iEv7m]SNLCCK=lD_kiLY^FxZ7fvGXzZ2Vd9b!1=),Ekm|JzQ?$++g*=%!=n3TE1^@WgHvMKjL$On2*WEA<0z
o#OscqD@/N|Q1B6]/_!YVS1EyZu]?~kY5mjkpRQg5;q1D(58al(odCutz)HZMHBImC]|qyK$5eTIywnwI52M~m6DG.f|NvCYP%i4)sNu,~Avg6fcYlXT=qH
QYYTN(!5$&#oWHRr$8)W?j$v]W=4Y.rD1I%OSnZ_2xs@_BlgY+nLkytw&LeKYDgC@A7Gf|&>ku%a;krt6.kw&Yx1P@$I>upByky/k21Wm6:|S<DM37f#q3K
a?!Cl%K@c[ju[=:*LyB4(aU*Pa@zwwuHmo.Odk]Nh1<fnG|o&(63FPEwXsJEx<EFw(!;N5,QTM+G$WmUcIB!Pw+t[CGmI_09%IU!uJ0n8b_+lzqs[P4U?W>
yu!gBvqub?HxLOF@~)0^bd^_P>M!y,PV&dEY,GZnEaF<is$Oh@j>6]V*m~iP4I7qj)0!r!8.l.;m*<|DF]I<Z~AQm4/]x8W4PgQ2NZUBVc2mm0_SDtb::C3
Pq^B*v<%xnzRc&4TLu3=92xt|9wrUM__ied&UHm<ZRD&&2.oS&Q/?H/,lKjC~8I>~?BiDFin>4MYH$Ty#*hhyWi@^<NsTIw1i9^&8g8ALX!%;*|1gAeCO;Y
C%5,jLv4u*HO_z=r_ffsx:fYxRuGO3kA94j4z=JtP<va)vIQP3AMp#Aq*.Z@$t|Z?J7&/J!3.r<&GfsvB16AXb)Kj.;g2~D2)bpd2$W*]CHGa>7~Kw?%r|:
K;b!=#&0~9%lrtvB)U>=62bU4KYWx_vQA4aTRHBustPKUwBhD]3T[t<iL#I:rf*v|oiRLstQ(<uoPz;th.>wH_:[z>XN*|mfgltIDj[+GM4u]RI5qhPlY+
u$5sJW(d=RzLl<:t6.wMNIRU0lfc~y!ts$7/ax/f]Tl9yM$_8n9p~Hmb~9DE/>2I)5;1scx:WPytF2Y:TJ%HdVM;x!ia,)xV1DD4m#ZFl!P%5R]aE,F%<hV
E&tc=/l4bIF!O7HLL82]yl3bD8KzJvauw)YL]rakt%)kEVRw?Tq%07>SnXB)KzU(2D<a#yFjp03g6;hY)EAUVfvb*HOV53q0<:RTci?f4Z=L?@Flg4N!.Hz
3$|OqyHA4,&P5J<@qG^gsr;5Wl/5=[[0p.QBnL:8=F6mOMjtvI.fM7vg[V6[+$?@dy+F*C_8fv9OwT_*,8O_bfjtoD:wp;ucwwT,uO7oc8WrYA:#gVf0S[9
R]4e08h,CDq(bs>$(CM3L~=;|Wf)vtoZW>49PZqN_HK;nfStfK&wbh:;Pg_cv~U7:2FN6WTKO>+_Q)XBJpR|>4*?##U5iMfG|wHms8d3]Xe1Ke5cqn?Xv]^
vYe(ZYtCVA,nzim)dr[vK95JpSEH[*2&|6Cc1o+U;UbVluX0y#MS8ovFFgqCa@/3Ygt7=Ek^XE8j.4eLn/N)/)MV=EsKcX4&bzI7O.B|tM2?gW6l%2*[[8
I$Rt2x=v#i$DPp_p=D34D(*E@NGju;sQ#!vgwsynSVB&?zExwrB4_ARpXTp!Nj%cY(E2?iUuRDytJ(CU:7CyyxiOY.#Or.Eb,Adm.|KVMr#;NbUu33?+WVt
S[e[c,suPi@J^6)aI823@ZA,ba))DDM:f175P(>zpZMsyA:R0DGY1<lG)5Xn8YSA<yGq=cMzPflApNI$gZPt837:JZP0x/K1sVU=1ixAm5pnY.9v#6,]UA2
9(]$(E>xH^STLcbh&8wqjkiL)T_)5FPYfR^NV@sKV7c7B;)G5bXbLe3A9Xu~=K~=Zv,G#io$S@r2qp[ny_rDfKx5=qT_$<k@XrP(Gi$gQiEjEQfEVG!cp5l
e3|QhsIf5bNU>3nX>Zu~;_R_cOPRd)0Cp^SmC8,x!C.)!8I533@E1e:Rf@?UY2l&1ugT_Wpl44~nC7Ogq&2]sK(:mWKw#%f&T?u#>gFc#w|Bx%#R#>i9o
7#<f<.(ZTPUu2~K>aH.SZ)XXyusX+ovVDPGx4QOvL!5[y9]+8WGEScKqt7K,XQ4$c&lBV:q0&^RX(EZxvCAr3A9b(kc>xpS,we/XTG7c)okHFZyp$yPNep~
a|I^GPk~zs_3eX|ShxC93Vdi3h+Bg3gsgjxY%EIBlH$rX)7<,.7^sL]m@,i)GCL)j]?LY02zqb6WXzDh(8L6(F[%f9pi>Ob)UIs^?~xNit:tcH7nE+DMJ4
X%a;B1JCzf5V&euSA!z8qdBZ3v1iT@ZPkoH710:DTt08u:89]@X!AcXbXN1+20:xUb<7ZM@|LQFVA,0yH!Fg3m/?^YpWPmc<q<x:+>SY6/2joTeZ$VQJE:R
bHwQ1p+1HoVj<&f.XkqWY0IC(;QGF>,ux]4G55Bj]t!IZx)8b?K9|54x4d_:rVNh=,srorWOPAKTQVI*2[8dyM/<lp+:a]!(;DqrqN*I0Z:JLY<jCIiY>4x
Q(yT3a1UMog$NK7nZr8=*W>mv7?Vf:HHOwD3)leO3:+#uuaUTr@hwokY[h7N7*L<9v$FWX[><K]O16~<PZp|sS.6iaiDjwu124VlZ(Z/3=fOjF/&nT!fpP$
ej6+&j,@vxOR>L#D0,p_Q;p%A)*Ja^+Z@,1VP0upb&U@HA|V7Ph;Iuy%KuT%!>U3v+UHXSaV%153kmCbT$8#!*>hHG&?yy9H80%tk.a"⟩

end StudioMigration.Text.CharName
